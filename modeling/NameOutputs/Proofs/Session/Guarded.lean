import NameOutputs.Proofs.Rejection
import NameOutputs.Proofs.Session.Run

/-!
# What descriptors answer, and how they refuse to change

Every descriptor that a session can hold is of one of the three kinds and has as many arguments as
its kind takes, however it was made. So a part that its kind has is one of these arguments
(`Operation.part?_eq`, with the positions in `Operation.Kind.position?`), and reading it never
fails; a part that its kind lacks is a mistake of the caller. An attempt to change a descriptor
reads first what it is to change, so it fails as reading does where reading fails
(`Operation.refusal_of_part?_eq_none`), and else because descriptors are read-only
(`Operation.refusal_of_readable`). `guarded_run` states this by the answers of the steps, in every
session that steps lead to, and says which arguments make a descriptor at all.
-/

namespace NameOutputs

namespace Operation

/-- The position of a part among the arguments of a kind that has the part. -/
def Kind.position? : Kind → Part → Option Nat
  | firstUpdate, .name | update, .name => some 0
  | firstUpdate, .salt => some 1
  | firstUpdate, .value => some 2
  | update, .value => some 1
  | new, .hash => some 0
  | _, _ => none

/-- A part that a kind has is one of its arguments. -/
theorem Kind.position?_lt {kind : Kind} {p : Part} {n : Nat} (h : kind.position? p = some n) :
    n < kind.arity := by
  revert h
  cases kind <;> cases p <;> rintro ⟨⟩ <;> decide

/-- A part of an operation is the argument at the position of the part. -/
theorem part?_eq (operation : Operation) (p : Part) :
    operation.part? p = (operation.kind.position? p).bind fun n => operation.args[n]? := by
  cases operation <;> cases p <;> rfl

/-- A part that the kind has is read off the arguments, which reach that far. -/
theorem part_of_position? {operation : Operation} {p : Part} {n : Nat}
    (h : operation.kind.position? p = some n) :
    ∃ text, operation.args[n]? = some text ∧ operation.part p = .ok text := by
  have hlt : n < operation.args.length := by
    rw [length_args]
    exact Kind.position?_lt h
  refine ⟨operation.args[n], List.getElem?_eq_getElem hlt, ?_⟩
  have hpart : operation.part? p = some operation.args[n] := by
    rw [part?_eq, h]
    exact List.getElem?_eq_getElem hlt
  unfold part
  rw [hpart]

/-- To ask for a part that the kind lacks is a mistake. -/
theorem part_of_position?_eq_none {operation : Operation} {p : Part}
    (h : operation.kind.position? p = none) : operation.part p = .error (.misused p) := by
  have hpart : operation.part? p = none := by
    rw [part?_eq, h]
    rfl
  unfold part
  rw [hpart]

variable {operation : Operation} {name : String}

/-- To change a part that the kind lacks is refused as reading it is. -/
theorem refusal_of_part?_eq_none {p : Part} (hname : Attribute.ofName? name = some (.part p))
    (hpart : operation.part? p = none) : operation.refusal name = .misused p := by
  unfold refusal
  rw [hname]
  simp only [hpart, Option.isSome_none, Bool.false_eq_true, if_false]

/-- To change an attribute that can be read is refused as such. -/
theorem refusal_of_readable {asked : Attribute} (hname : Attribute.ofName? name = some asked)
    (hasked : ∀ p, asked = .part p → ∃ text, operation.part? p = some text) :
    operation.refusal name = .readOnly name := by
  unfold refusal
  rw [hname]
  cases asked with
  | part p =>
    obtain ⟨text, hpart⟩ := hasked p rfl
    simp only [hpart, Option.isSome_some, if_true]
  | _ => rfl

/-- The other names that a descriptor knows are no names of attributes. -/
theorem ofName?_of_mem_otherNames (h : name ∈ Attribute.otherNames) :
    Attribute.ofName? name = none := by
  revert name
  decide

end Operation

namespace Descriptor

/-- What is wrong with a descriptor that is made of its arguments: its opcode, or else their
number. -/
theorem ofArgs_cases {Source : Type} (opcode : Int) (args : List Text) (encoding : Encoding)
    (source : Source) :
    (∀ kind : Operation.Kind, kind.opcode ≠ opcode) ∧
        ofArgs opcode args encoding source = .error (.rejected (.unknownOp opcode)) ∨
      ∃ kind : Operation.Kind, kind.opcode = opcode ∧
        (args.length ≠ kind.arity ∧ ofArgs opcode args encoding source =
            .error (.rejected (.wrongArgCount opcode args.length kind.arity)) ∨
          args.length = kind.arity ∧ ∃ d, ofArgs opcode args encoding source = .ok d ∧
            d.operation.kind = kind ∧ d.operation.args = args) := by
  unfold ofArgs
  rcases Operation.ofArgs_cases opcode args with
    ⟨hkind, hargs⟩ | ⟨kind, hkind, ⟨hlength, hargs⟩ | ⟨hlength, operation, hargs⟩⟩
  · exact .inl ⟨hkind, by rw [hargs]; rfl⟩
  · exact .inr ⟨kind, hkind, .inl ⟨hlength, by rw [hargs]; rfl⟩⟩
  · obtain ⟨hopcode, hargs'⟩ := Operation.ofArgs_eq_ok_iff.mp hargs
    have hkind' : operation.kind = kind :=
      Operation.Kind.opcode_injective (hopcode.trans hkind.symm)
    exact .inr ⟨kind, hkind, .inr ⟨hlength, ⟨operation, encoding, source⟩, by rw [hargs]; rfl,
      hkind', hargs'⟩⟩

end Descriptor

namespace Session

/-- What the descriptor in a slot answers, by its kind and its arguments, and how it refuses to be
changed. -/
structure Guarded (session : Session) (slot : String) (kind : Operation.Kind)
    (args : List Text) : Prop where
  /-- Its opcode is that of its kind. -/
  opcode : session.step (.get slot .opcode) = .ok (.integer kind.opcode, session)
  /-- These are its arguments. -/
  arguments : session.step (.get slot .args) = .ok (.texts args, session)
  /-- There are as many as its kind takes. -/
  length : args.length = kind.arity
  /-- A part that its kind has is the argument at the position of the part. -/
  part : ∀ p n, kind.position? p = some n →
    ∃ text, args[n]? = some text ∧ session.step (.get slot (.part p)) = .ok (.text text, session)
  /-- Reading a part that its kind lacks fails. -/
  misused : ∀ p, kind.position? p = none →
    session.step (.get slot (.part p)) = .error (.operation (.misused p))
  /-- An attempt to change it has no effect. -/
  unchanged : ∀ name, session.after (.set slot name) = session
  /-- The attempt fails as reading does, and in the same words, where reading under the name
  fails. -/
  refused_as_read : ∀ name asked fault, Attribute.ofName? name = some asked →
    session.step (.get slot asked) = .error fault →
    ∃ p, fault = .operation (.misused p) ∧
      session.step (.set slot name) = .error (.refused (.misused p)) ∧
      (StepFault.refused (.misused p)).message = fault.message
  /-- It fails because the descriptor is read-only where reading under the name does not fail. -/
  refused_readOnly : ∀ name asked answer, Attribute.ofName? name = some asked →
    session.step (.get slot asked) = .ok answer →
    session.step (.set slot name) = .error (.refused (.readOnly name))
  /-- So it does for the other names that the descriptor knows. -/
  refused_other : ∀ name, name ∈ Attribute.otherNames →
    session.step (.set slot name) = .error (.refused (.readOnly name))
  /-- It fails because there is no such attribute for any other name. Names that begin and end with
  two underscores are no descriptor's own, and nothing is said of them. -/
  refused_unknown : ∀ name, Attribute.ofName? name = none → name ∉ Attribute.otherNames →
    ¬ (Text.ofString "__" <+: Text.ofString name ∧ Text.ofString "__" <:+ Text.ofString name) →
    session.step (.set slot name) = .error (.refused (.noAttribute name))

variable {session : Session} {slot : String} {d : Descriptor Key}

/-- An attribute can be read, unless it is a part that the operation lacks. -/
theorem read_cases (session : Session) (d : Descriptor Key) (asked : Attribute) :
    (∃ answer, session.read d asked = .ok answer) ∧
        (∀ p, asked = .part p → ∃ text, d.operation.part? p = some text) ∨
      ∃ p, asked = .part p ∧ d.operation.part? p = none ∧
        session.read d asked = .error (.misused p) := by
  cases asked with
  | opcode | args | isUpdate | source => exact .inl ⟨⟨_, rfl⟩, fun p hp => by cases hp⟩
  | part p =>
    cases hpart : d.operation.part? p with
    | some text =>
      refine .inl ⟨⟨.text text, ?_⟩, fun q hq => ⟨text, ?_⟩⟩
      · simp only [read, Operation.part, hpart]
        rfl
      · rw [← Attribute.part.inj hq, hpart]
    | none =>
      refine .inr ⟨p, rfl, hpart, ?_⟩
      simp only [read, Operation.part, hpart]
      rfl

/-- The descriptor in a slot answers as its kind and its arguments say. -/
theorem guarded_of_slots (h : session.slots slot = some (.descriptor d)) :
    session.Guarded slot d.operation.kind d.operation.args := by
  constructor
  case opcode =>
    rw [step_get h]
    rfl
  case arguments =>
    rw [step_get h]
    rfl
  case length => exact Operation.length_args d.operation
  case part =>
    intro p n hposition
    obtain ⟨text, htext, hpart⟩ := Operation.part_of_position? hposition
    refine ⟨text, htext, ?_⟩
    rw [step_get h, read, hpart]
    rfl
  case misused =>
    intro p hposition
    rw [step_get h, read, Operation.part_of_position?_eq_none hposition]
    rfl
  case unchanged =>
    intro name
    exact after_of_error (step_set h name)
  case refused_as_read =>
    intro name asked fault hname hread
    rw [step_get h] at hread
    rcases read_cases session d asked with ⟨⟨answer, hanswer⟩, -⟩ | ⟨p, rfl, hpart, hfault⟩
    · rw [hanswer] at hread
      cases hread
    · rw [hfault] at hread
      obtain rfl := Except.error.inj hread
      refine ⟨p, rfl, ?_, rfl⟩
      rw [step_set h, Operation.refusal_of_part?_eq_none hname hpart]
  case refused_readOnly =>
    intro name asked answer hname hread
    rw [step_get h] at hread
    rcases read_cases session d asked with ⟨-, hasked⟩ | ⟨p, -, -, hfault⟩
    · rw [step_set h, Operation.refusal_of_readable hname hasked]
    · rw [hfault] at hread
      cases hread
  case refused_other =>
    intro name hname
    rw [step_set h, Operation.refusal, Operation.ofName?_of_mem_otherNames hname]
    simp only [if_pos hname]
  case refused_unknown =>
    intro name hname hother _
    rw [step_set h, Operation.refusal, hname]
    simp only [if_neg hother]

/-- A step that makes a descriptor of its arguments fails as making the descriptor fails, and else
puts the descriptor into its slot. The source is a pair that is there or a new one. -/
theorem step_construct {opcode : Int} {args : List Text} {encoding : Encoding}
    {source? : Option String}
    (hsource : ∀ origin, source? = some origin → ∃ key, session.slots origin = some (.pair key)) :
    ∃ key : Key,
      (∀ fault, Descriptor.ofArgs opcode args encoding key = .error fault →
        session.step (.construct slot opcode args source? encoding) = .error (.operation fault)) ∧
      ∀ d, Descriptor.ofArgs opcode args encoding key = .ok d →
        session.Makes (.construct slot opcode args source? encoding) slot (.descriptor d) := by
  cases source? with
  | none =>
    refine ⟨session.store.fresh, fun fault hfault => ?_, fun d hd => ?_⟩
    · simp only [step, hfault]
      rfl
    · have hstep : session.step (.construct slot opcode args none encoding) =
          .ok ((session.addPair {}).made slot (.descriptor d)) := by
        simp only [step, hd]
        rfl
      exact makes_of_step rfl hstep
  | some origin =>
    obtain ⟨key, hkey⟩ := hsource origin rfl
    have hpair := pairAt_eq_ok_iff.mpr hkey
    refine ⟨key, fun fault hfault => ?_, fun d hd => ?_⟩
    · simp only [step, hpair, bind, Except.bind, hfault]
      rfl
    · have hstep : session.step (.construct slot opcode args (some origin) encoding) =
          .ok (session.made slot (.descriptor d)) := by
        simp only [step, hpair, bind, Except.bind, hd]
        rfl
      exact makes_of_step rfl hstep

/-- In every session that steps lead to, the descriptors are valid and guarded: each is of a kind,
and answers and refuses as its kind and its arguments say. A step makes a descriptor of an opcode
and arguments if the opcode is that of a kind which takes as many, and else it says which of the two
is wrong. -/
theorem guarded_run (steps : List Step) :
    let session := ({} : Session).run steps
    (∀ slot d, session.slots slot = some (.descriptor d) →
      ∃ kind args, session.Guarded slot kind args) ∧
    ∀ (slot : String) (opcode : Int) (args : List Text) (source? : Option String)
      (encoding : Encoding),
      (∀ origin, source? = some origin → ∃ key, session.slots origin = some (.pair key)) →
      let construct := Step.construct slot opcode args source? encoding
      (∀ kind : Operation.Kind, kind.opcode ≠ opcode) ∧
          session.step construct = .error (.operation (.rejected (.unknownOp opcode))) ∨
        ∃ kind : Operation.Kind, kind.opcode = opcode ∧
          (args.length ≠ kind.arity ∧ session.step construct = .error (.operation
              (.rejected (.wrongArgCount opcode args.length kind.arity))) ∨
            args.length = kind.arity ∧
              (∃ answer, session.step construct = .ok (answer, session.after construct)) ∧
              (session.after construct).Guarded slot kind args) := by
  -- No invariant of the run is needed: an operation cannot have the wrong number of arguments.
  generalize ({} : Session).run steps = session
  refine ⟨fun slot d h => ⟨_, _, guarded_of_slots h⟩,
    fun slot opcode args source? encoding hsource => ?_⟩
  obtain ⟨key, hfails, hmakes⟩ := session.step_construct hsource
  rcases Descriptor.ofArgs_cases opcode args encoding key with
    ⟨hkind, hargs⟩ | ⟨kind, hkind, ⟨hlength, hargs⟩ | ⟨hlength, d, hd, rfl, rfl⟩⟩
  · exact .inl ⟨hkind, hfails _ hargs⟩
  · exact .inr ⟨kind, hkind, .inl ⟨hlength, hfails _ hargs⟩⟩
  · obtain ⟨-, hanswer, hslot⟩ := hmakes d hd
    exact .inr ⟨_, hkind, .inr ⟨hlength, hanswer, guarded_of_slots hslot⟩⟩

end Session

end NameOutputs
