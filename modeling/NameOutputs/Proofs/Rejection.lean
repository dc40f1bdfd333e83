import Mathlib.Order.Bounds.Defs
import NameOutputs.Proofs.Grammar

/-!
# Why a script carries no name operation

Several things may be wrong with a script at once. `Operation.Objection` says of each of them by
itself when it can be held against a script, and `Fault.rank` puts them in order.
`parse_fails_by_first_objection` shows that a script is rejected with the first objection to it, and
accepted if there is none. The codec that the arguments are read with counts among what may be
wrong, by its first failure.

The proof goes through the steps of parsing in their order. Each step either fails with an objection
or leaves none of the ranks that it is about (`readArguments_step`, `misfit?_step`, `ofArgs_step`),
so what fails is of least rank. Objections of one rank are the same (`Objection.eq_of_rank_eq`), so
the first objection is the only fault.
-/

namespace NameOutputs

/-- The position of the first instruction behind the head that cannot push an argument. The head
counts as zero, and the end of the script counts if every instruction can. -/
def Script.argumentsEnd (script : Script) : Nat :=
  script.tail.findIdx (fun i => ¬ (0 ≤ i.opcode ∧ i.opcode ≤ Opcode.pushData4)) + 1

/-- The place of a fault in the order of precedence. -/
def Fault.rank : Fault → Nat
  | .rejected .emptyScript => 0
  | .encoding _ => 1
  | .rejected (.opcodeOutOfRange ..) => 2
  | .rejected .noDelimiter => 3
  | .rejected (.unknownOp _) => 4
  | .rejected (.wrongArgCount ..) => 5
  | .misused _ => 6

/-- What can be held against a script as one that carries a name operation, each by itself. -/
inductive Operation.Objection (encoding : Encoding) (script : Script) : Fault → Prop
  /-- There is no instruction. -/
  | emptyScript : script = [] → Objection encoding script (.rejected .emptyScript)
  /-- The encoding is unknown, and an instruction before the end of the arguments has data. -/
  | unknownEncoding {label : String} {position : Nat} {i : Instruction} :
    encoding = .unknown label → 1 ≤ position → position < script.argumentsEnd →
    script[position]? = some i → i.data.getD [] ≠ [] →
    Objection encoding script (.encoding (.unknownEncoding label))
  /-- Of the instructions before the end of the arguments, this is the first whose data the codec
  does not read. -/
  | unreadable {codec : Codec} {position : Nat} {i : Instruction} {fault : EncodingFault} :
    encoding = .other codec → 1 ≤ position → position < script.argumentsEnd →
    script[position]? = some i → encoding.read i.data = .error fault →
    (∀ earlier j, 1 ≤ earlier → earlier < position → script[earlier]? = some j →
      ∃ t, encoding.read j.data = .ok t) →
    Objection encoding script (.encoding fault)
  /-- The instruction at the end of the arguments is no delimiter. -/
  | opcodeOutOfRange {i : Instruction} :
    script[script.argumentsEnd]? = some i → ¬ i.IsDrop →
    Objection encoding script (.rejected (.opcodeOutOfRange i.opcode script.argumentsEnd))
  /-- From the end of the arguments there are delimiters only. -/
  | noDelimiter :
    (∀ i ∈ script.drop script.argumentsEnd, i.IsDrop) →
    Objection encoding script (.rejected .noDelimiter)
  /-- The head is of no kind of operation. -/
  | unknownOp {head : Instruction} :
    script.head? = some head → (∀ kind : Operation.Kind, kind.opcode ≠ head.opcode) →
    Objection encoding script (.rejected (.unknownOp head.opcode))
  /-- The kind of the head takes another number of arguments. -/
  | wrongArgCount {head : Instruction} {kind : Operation.Kind} :
    script.head? = some head → kind.opcode = head.opcode →
    script.argumentsEnd - 1 ≠ kind.arity →
    Objection encoding script
      (.rejected (.wrongArgCount head.opcode ((script.argumentsEnd - 1 : Nat) : Int) kind.arity))

namespace Script

/-- The arguments end at the first position behind the head that holds no argument. -/
theorem isLeast_argumentsEnd (script : Script) :
    IsLeast {k : Nat | 1 ≤ k ∧ ∀ i, script[k]? = some i →
      ¬ (0 ≤ i.opcode ∧ i.opcode ≤ Opcode.pushData4)} script.argumentsEnd := by
  unfold argumentsEnd
  constructor
  · refine ⟨Nat.le_add_left 1 _, fun i hi => ?_⟩
    rw [← List.getElem?_tail] at hi
    obtain ⟨hlt, rfl⟩ := List.getElem?_eq_some_iff.mp hi
    exact of_decide_eq_true (List.findIdx_getElem (w := hlt))
  · rintro k ⟨hk, hend⟩
    obtain ⟨k, rfl⟩ := Nat.exists_eq_add_of_le' hk
    refine Nat.succ_le_succ (Nat.le_of_not_lt fun hlt => ?_)
    -- The instruction at an earlier position would be an argument.
    have hlength := Nat.lt_of_lt_of_le hlt List.findIdx_le_length
    refine of_decide_eq_false (List.not_of_lt_findIdx hlt) (hend _ ?_)
    rw [← List.getElem?_tail, List.getElem?_eq_getElem hlength]

/-- The position at which the arguments end, by the test for arguments. -/
theorem argumentsEnd_cons (head : Instruction) (rest : Script) :
    argumentsEnd (head :: rest) = rest.findIdx (fun i => !i.isArgument) + 1 := by
  unfold argumentsEnd
  congr 2
  funext i
  simp only [Instruction.isArgument, decide_not, Bool.decide_and]

end Script

namespace Layout

variable (head : Instruction) (rest : Script)

/-- There are as many arguments as positions behind the head before they end. -/
theorem length_arguments_ofCons :
    (ofCons head rest).arguments.length = Script.argumentsEnd (head :: rest) - 1 := by
  have hle : rest.findIdx (fun i => !i.isArgument) ≤ rest.length := List.findIdx_le_length
  unfold ofCons
  rw [Script.argumentsEnd_cons, List.takeWhile_eq_take_findIdx_not, List.length_take]
  omega

/-- The arguments stand behind the head at the positions before they end, in order. -/
theorem getElem?_arguments_ofCons_iff {k : Nat} {i : Instruction} :
    (ofCons head rest).arguments[k]? = some i ↔
      k + 1 < Script.argumentsEnd (head :: rest) ∧ (head :: rest)[k + 1]? = some i := by
  unfold ofCons
  rw [Script.argumentsEnd_cons, List.takeWhile_eq_take_findIdx_not, List.getElem?_take,
    List.getElem?_cons_succ, Nat.add_lt_add_iff_right]
  split
  · next hlt => exact (and_iff_right hlt).symm
  · next hge => exact iff_of_false nofun fun h => hge h.1

/-- The arguments are what stands behind the head at the positions before they end. -/
theorem mem_arguments_ofCons_iff {i : Instruction} :
    i ∈ (ofCons head rest).arguments ↔
      ∃ position, 1 ≤ position ∧ position < Script.argumentsEnd (head :: rest) ∧
        (head :: rest)[position]? = some i := by
  simp only [List.mem_iff_getElem?, getElem?_arguments_ofCons_iff]
  constructor
  · rintro ⟨k, hlt, hi⟩
    exact ⟨k + 1, Nat.le_add_left 1 k, hlt, hi⟩
  · rintro ⟨position, hone, hlt, hi⟩
    obtain ⟨k, rfl⟩ := Nat.exists_eq_add_of_le' hone
    exact ⟨k, hlt, hi⟩

/-- What stands from the end of the arguments on is the delimiters and the payment. -/
theorem drop_argumentsEnd :
    (head :: rest).drop (Script.argumentsEnd (head :: rest)) =
      (ofCons head rest).delimiters ++ (ofCons head rest).payment := by
  unfold ofCons
  rw [Script.argumentsEnd_cons, List.drop_succ_cons, ← List.dropWhile_eq_drop_findIdx_not,
    List.takeWhile_append_dropWhile]

end Layout

/-- Data that are missing or empty are the empty text under any encoding. -/
theorem Encoding.read_of_getD_eq_nil (encoding : Encoding) {data : Option Bytes}
    (h : data.getD [] = []) : encoding.read data = .ok [] := by
  match data with
  | none | some [] => rfl
  | some (_ :: _) => cases h

/-- Other data are not read if the encoding is unknown, or if its codec does not read them. -/
theorem Encoding.read_eq_error_iff {encoding : Encoding} {data : Option Bytes}
    {fault : EncodingFault} :
    encoding.read data = .error fault ↔
      data.getD [] ≠ [] ∧
        ((∃ label, encoding = .unknown label ∧ fault = .unknownEncoding label) ∨
          ∃ codec, encoding = .other codec ∧ codec.decode (data.getD []) = .error fault) := by
  match data with
  | none | some [] => exact iff_of_false nofun fun h => h.1 rfl
  | some (b :: bs) =>
    refine Iff.trans ?_ (and_iff_right (List.cons_ne_nil b bs)).symm
    cases encoding with
    | known charset => simp [read, Encoding.codec, Charset.codec, bind, Except.bind]
    | other codec => simp [read, Encoding.codec, bind, Except.bind]
    | unknown label => simp [read, Encoding.codec, bind, Except.bind, eq_comm]

namespace Script

/-- Instructions without data are read as empty texts under any encoding. -/
theorem mapM_read_of_getD_eq_nil (encoding : Encoding) {script : Script}
    (h : ∀ i ∈ script, i.data.getD [] = []) :
    script.mapM (fun i => encoding.read i.data) = .ok (script.map fun _ => []) := by
  induction script with
  | nil => rfl
  | cons i script ih =>
    rw [List.forall_mem_cons] at h
    rw [List.mapM_cons, encoding.read_of_getD_eq_nil h.1, ih h.2]
    rfl

/-- Reading the instructions in order fails at the first whose data are not read, or gives a text
for each. -/
theorem mapM_read_cases (encoding : Encoding) (script : Script) :
    (∃ (k : Nat) (i : Instruction) (fault : EncodingFault), script[k]? = some i ∧
        encoding.read i.data = .error fault ∧
        (∀ j < k, ∀ i', script[j]? = some i' → ∃ t, encoding.read i'.data = .ok t) ∧
        script.mapM (fun i => encoding.read i.data) = .error fault) ∨
      (∀ i ∈ script, ∃ t, encoding.read i.data = .ok t) ∧
        ∃ args, args.length = script.length ∧
          script.mapM (fun i => encoding.read i.data) = .ok args := by
  induction script with
  | nil => exact .inr ⟨nofun, [], rfl, rfl⟩
  | cons i script ih =>
    rw [List.mapM_cons]
    cases hi : encoding.read i.data with
    | error fault => exact .inl ⟨0, i, fault, rfl, hi, nofun, rfl⟩
    | ok t =>
      rcases ih with ⟨k, i', fault, hk, hread, hbefore, hrest⟩ | ⟨hall, args, hlength, hrest⟩
      · refine .inl ⟨k + 1, i', fault, hk, hread, fun j hj other hother => ?_, by rw [hrest]; rfl⟩
        cases j with
        | zero =>
          obtain rfl := Option.some.inj hother
          exact ⟨t, hi⟩
        | succ j => exact hbefore j (Nat.lt_of_succ_lt_succ hj) other hother
      · refine .inr ⟨List.forall_mem_cons.mpr ⟨⟨t, hi⟩, hall⟩, t :: args, ?_, by rw [hrest]; rfl⟩
        rw [List.length_cons, List.length_cons, hlength]

end Script

namespace Operation

/-- An opcode of no kind makes no operation. -/
theorem ofArgs_of_forall_ne {opcode : Int} (args : List Text)
    (h : ∀ kind : Kind, kind.opcode ≠ opcode) :
    ofArgs opcode args = .error (.unknownOp opcode) := by
  have hkind : Kind.ofOpcode? opcode = none := by
    rw [Option.eq_none_iff_forall_not_mem]
    exact fun kind hkind => h kind (Kind.ofOpcode?_eq_some_iff.mp hkind)
  unfold ofArgs
  rw [hkind]

/-- The number of arguments has to be that of the kind. -/
theorem ofArgs_of_length_ne (kind : Kind) {args : List Text} (h : args.length ≠ kind.arity) :
    ofArgs kind.opcode args = .error (.wrongArgCount kind.opcode args.length kind.arity) := by
  have hkind : Kind.ofOpcode? kind.opcode = some kind := Kind.ofOpcode?_eq_some_iff.mpr rfl
  unfold ofArgs
  rw [hkind]
  split
  · next hnone => cases hnone
  · next hnew => cases hnew; exact absurd rfl h
  · next hfirst => cases hfirst; exact absurd rfl h
  · next hupdate => cases hupdate; exact absurd rfl h
  · next hsome _ _ _ => cases hsome; rfl

end Operation

namespace Layout

/-- What is wrong with the layout of a script: the instruction at which the arguments end, if it is
no delimiter, or that there are delimiters only. -/
theorem misfit?_ofCons_cases (head : Instruction) (rest : Script) :
    let script := head :: rest
    let back := script.drop (Script.argumentsEnd script)
    (∃ i, back.head? = some i ∧ ¬ i.IsDrop ∧
        (ofCons head rest).misfit? =
          some (.opcodeOutOfRange i.opcode (Script.argumentsEnd script))) ∨
      (∀ i, back.head? = some i → i.IsDrop) ∧
        ((∀ i ∈ back, i.IsDrop) ∧ (ofCons head rest).misfit? = some .noDelimiter ∨
          ¬ (∀ i ∈ back, i.IsDrop) ∧ (ofCons head rest).misfit? = none) := by
  intro script back
  have hback : back = (ofCons head rest).delimiters ++ (ofCons head rest).payment :=
    drop_argumentsEnd head rest
  have hend : Script.argumentsEnd script = (ofCons head rest).arguments.length + 1 := by
    rw [length_arguments_ofCons]
    rfl
  have hdrops := (mem_ofCons head rest).2
  unfold misfit?
  cases hpayment : (ofCons head rest).payment with
  | nil =>
    -- All that is left is the delimiters.
    rw [hpayment, List.append_nil] at hback
    rw [hback]
    refine .inr ⟨fun i hi => hdrops i (List.mem_of_mem_head? hi), .inl ⟨hdrops, ?_⟩⟩
    cases (ofCons head rest).delimiters <;> rfl
  | cons i payment =>
    have hi : ¬ i.IsDrop := not_isDrop_of_payment_ofCons hpayment
    rw [hpayment] at hback
    cases hdelimiters : (ofCons head rest).delimiters with
    | nil =>
      rw [hdelimiters, List.nil_append] at hback
      refine .inl ⟨i, by rw [hback]; rfl, hi, ?_⟩
      rw [hend]
      rfl
    | cons j delimiters =>
      rw [hdelimiters] at hback hdrops
      refine .inr ⟨fun k hk => ?_, .inr ⟨fun hall => hi (hall i (by simp [hback])), rfl⟩⟩
      rw [hback] at hk
      obtain rfl := Option.some.inj hk
      exact hdrops j (by simp)

end Layout

namespace Operation

/-- What is wrong with an operation: its opcode, or else the number of its arguments. -/
theorem ofArgs_cases (opcode : Int) (args : List Text) :
    (∀ kind : Kind, kind.opcode ≠ opcode) ∧ ofArgs opcode args = .error (.unknownOp opcode) ∨
      ∃ kind : Kind, kind.opcode = opcode ∧
        (args.length ≠ kind.arity ∧
            ofArgs opcode args = .error (.wrongArgCount opcode args.length kind.arity) ∨
          args.length = kind.arity ∧ ∃ operation, ofArgs opcode args = .ok operation) := by
  by_cases hkind : ∃ kind : Kind, kind.opcode = opcode
  · obtain ⟨kind, rfl⟩ := hkind
    refine .inr ⟨kind, rfl, ?_⟩
    by_cases hlength : args.length = kind.arity
    · obtain ⟨operation, hoperation, hargs⟩ := exists_of_length_eq_arity kind hlength
      exact .inr ⟨hlength, operation, ofArgs_eq_ok_iff.mpr ⟨congrArg Kind.opcode hoperation, hargs⟩⟩
    · exact .inl ⟨hlength, ofArgs_of_length_ne kind hlength⟩
  · have hne : ∀ kind : Kind, kind.opcode ≠ opcode := fun kind h => hkind ⟨kind, h⟩
    exact .inl ⟨hne, ofArgs_of_forall_ne args hne⟩

variable {encoding : Encoding} {script : Script}

/-- Every objection to the script has this rank or a later one. -/
def ClearBelow (encoding : Encoding) (script : Script) (rank : Nat) : Prop :=
  ∀ fault, Objection encoding script fault → rank ≤ fault.rank

/-- An objection to the script that no other one comes before. -/
structure FirstObjection (encoding : Encoding) (script : Script) (fault : Fault) : Prop where
  /-- It can be held against the script. -/
  objection : Objection encoding script fault
  /-- None of an earlier rank can. -/
  clear : ClearBelow encoding script fault.rank

/-- The script is cleared of one more rank if there is no objection of it. -/
theorem ClearBelow.succ {rank : Nat} (h : ClearBelow encoding script rank)
    (hrank : ∀ fault, Objection encoding script fault → fault.rank ≠ rank) :
    ClearBelow encoding script (rank + 1) :=
  fun fault hfault => Nat.lt_of_le_of_ne (h fault hfault) (hrank fault hfault).symm

/-- To a script cleared of all six ranks there is no objection. -/
theorem ClearBelow.not_objection (h : ClearBelow encoding script 6) (fault : Fault) :
    ¬ Objection encoding script fault := by
  intro hfault
  have hrank := h fault hfault
  cases hfault <;> simp [Fault.rank] at hrank

/-- Of each rank there is one objection at most. -/
theorem Objection.eq_of_rank_eq {fault other : Fault} (h : Objection encoding script fault)
    (h' : Objection encoding script other) (hrank : fault.rank = other.rank) : fault = other := by
  cases h with
  | emptyScript =>
    cases h' with
    | emptyScript => rfl
    | _ => cases hrank
  | unknownEncoding hlabel =>
    cases h' with
    | unknownEncoding hlabel' => rw [Encoding.unknown.inj (hlabel.symm.trans hlabel')]
    | unreadable hcodec => cases hlabel.symm.trans hcodec
    | _ => cases hrank
  | @unreadable _ position _ _ hcodec hone _ hi hread hbefore =>
    cases h' with
    | unknownEncoding hlabel => cases hlabel.symm.trans hcodec
    | @unreadable _ position' _ _ _ hone' _ hi' hread' hbefore' =>
      -- What is read before the one position is not what fails at the other.
      rcases Nat.lt_trichotomy position position' with hlt | rfl | hlt
      · obtain ⟨t, ht⟩ := hbefore' position _ hone hlt hi
        cases hread.symm.trans ht
      · obtain rfl := Option.some.inj (hi.symm.trans hi')
        rw [Except.error.inj (hread.symm.trans hread')]
      · obtain ⟨t, ht⟩ := hbefore position' _ hone' hlt hi'
        cases hread'.symm.trans ht
    | _ => cases hrank
  | opcodeOutOfRange hi =>
    cases h' with
    | opcodeOutOfRange hi' => rw [Option.some.inj (hi.symm.trans hi')]
    | _ => cases hrank
  | noDelimiter =>
    cases h' with
    | noDelimiter => rfl
    | _ => cases hrank
  | unknownOp hhead =>
    cases h' with
    | unknownOp hhead' => rw [Option.some.inj (hhead.symm.trans hhead')]
    | _ => cases hrank
  | wrongArgCount hhead hkind =>
    cases h' with
    | wrongArgCount hhead' hkind' =>
      obtain rfl := Option.some.inj (hhead.symm.trans hhead')
      rw [Kind.opcode_injective (hkind.trans hkind'.symm)]
    | _ => cases hrank

/-- There is one first objection at most. -/
theorem FirstObjection.eq {fault other : Fault} (h : FirstObjection encoding script fault)
    (h' : FirstObjection encoding script other) : fault = other :=
  h.objection.eq_of_rank_eq h'.objection
    (Nat.le_antisymm (h.clear other h'.objection) (h'.clear fault h.objection))

section Steps

variable (encoding : Encoding) (head : Instruction) (rest : Script)

/-- Reading the arguments fails with the first objection, or leaves none of the first two ranks. -/
theorem readArguments_step :
    (∃ fault, (Layout.ofCons head rest).readArguments encoding = .error fault ∧
        FirstObjection encoding (head :: rest) (.encoding fault)) ∨
      ∃ args, (Layout.ofCons head rest).readArguments encoding = .ok args ∧
        args.length = Script.argumentsEnd (head :: rest) - 1 ∧
        ClearBelow encoding (head :: rest) 2 := by
  have hclear₀ : ClearBelow encoding (head :: rest) 0 := fun fault _ => Nat.zero_le fault.rank
  have hclear₁ : ClearBelow encoding (head :: rest) 1 := by
    refine hclear₀.succ fun fault hfault hrank => ?_
    cases hfault with
    | emptyScript hnil => cases hnil
    | _ => cases hrank
  rcases Script.mapM_read_cases encoding (Layout.ofCons head rest).arguments with
    ⟨k, i, fault, hi, hread, hbefore, hfault⟩ | ⟨hall, args, hlength, hargs⟩
  · obtain ⟨hlt, hposition⟩ := (Layout.getElem?_arguments_ofCons_iff head rest).mp hi
    have hone : 1 ≤ k + 1 := Nat.le_add_left 1 k
    have hobjection : Objection encoding (head :: rest) (.encoding fault) := by
      obtain ⟨hdata, hcause⟩ := Encoding.read_eq_error_iff.mp hread
      rcases hcause with ⟨label, hlabel, rfl⟩ | ⟨codec, hcodec, -⟩
      · exact .unknownEncoding hlabel hone hlt hposition hdata
      · refine .unreadable hcodec hone hlt hposition hread fun earlier j hone' hlt' hj => ?_
        obtain ⟨k', rfl⟩ := Nat.exists_eq_add_of_le' hone'
        have hj' := (Layout.getElem?_arguments_ofCons_iff head rest).mpr ⟨hlt'.trans hlt, hj⟩
        exact hbefore k' (Nat.lt_of_succ_lt_succ hlt') j hj'
    exact .inl ⟨fault, hfault, hobjection, hclear₁⟩
  · rw [Layout.length_arguments_ofCons] at hlength
    -- Whatever stands before the end of the arguments is read.
    have hread : ∀ {position : Nat} {i : Instruction} {fault : EncodingFault}, 1 ≤ position →
        position < Script.argumentsEnd (head :: rest) → (head :: rest)[position]? = some i →
        encoding.read i.data ≠ .error fault := by
      intro position i fault hone hlt hposition hfault
      have hmem := (Layout.mem_arguments_ofCons_iff head rest).mpr ⟨position, hone, hlt, hposition⟩
      obtain ⟨t, ht⟩ := hall i hmem
      cases ht.symm.trans hfault
    refine .inr ⟨args, hargs, hlength, hclear₁.succ fun fault hfault hrank => ?_⟩
    cases hfault with
    | unknownEncoding hlabel hone hlt hposition hdata =>
      exact hread hone hlt hposition (Encoding.read_eq_error_iff.mpr ⟨hdata, .inl ⟨_, hlabel, rfl⟩⟩)
    | unreadable _ hone hlt hposition hfault => exact hread hone hlt hposition hfault
    | _ => cases hrank

variable {encoding head rest}

/-- Judging the layout finds the first objection, or leaves none of the next two ranks. -/
theorem misfit?_step (hclear₂ : ClearBelow encoding (head :: rest) 2) :
    (∃ cause, (Layout.ofCons head rest).misfit? = some cause ∧
        FirstObjection encoding (head :: rest) (.rejected cause)) ∨
      (Layout.ofCons head rest).misfit? = none ∧ ClearBelow encoding (head :: rest) 4 := by
  rcases Layout.misfit?_ofCons_cases head rest with ⟨i, hi, hdrop, hmisfit⟩ | ⟨hhead, hback⟩
  · rw [List.head?_drop] at hi
    exact .inl ⟨_, hmisfit, .opcodeOutOfRange hi hdrop, hclear₂⟩
  have hclear₃ : ClearBelow encoding (head :: rest) 3 := by
    refine hclear₂.succ fun fault hfault hrank => ?_
    cases hfault with
    | opcodeOutOfRange hi hdrop =>
      rw [← List.head?_drop] at hi
      exact hdrop (hhead _ hi)
    | _ => cases hrank
  rcases hback with ⟨hdrops, hmisfit⟩ | ⟨hdrops, hmisfit⟩
  · exact .inl ⟨_, hmisfit, .noDelimiter hdrops, hclear₃⟩
  · refine .inr ⟨hmisfit, hclear₃.succ fun fault hfault hrank => ?_⟩
    cases hfault with
    | noDelimiter hall => exact hdrops hall
    | _ => cases hrank

/-- Making the operation fails with the first objection, or leaves none. -/
theorem ofArgs_step {args : List Text} (hclear₄ : ClearBelow encoding (head :: rest) 4)
    (hlength : args.length = Script.argumentsEnd (head :: rest) - 1) :
    (∃ cause, ofArgs head.opcode args = .error cause ∧
        FirstObjection encoding (head :: rest) (.rejected cause)) ∨
      (∃ operation, ofArgs head.opcode args = .ok operation) ∧
        ClearBelow encoding (head :: rest) 6 := by
  rcases ofArgs_cases head.opcode args with ⟨hkind, hargs⟩ | ⟨kind, hkind, hcount⟩
  · exact .inl ⟨_, hargs, .unknownOp rfl hkind, hclear₄⟩
  have hclear₅ : ClearBelow encoding (head :: rest) 5 := by
    refine hclear₄.succ fun fault hfault hrank => ?_
    cases hfault with
    | unknownOp hhead hne =>
      obtain rfl := Option.some.inj hhead
      exact hne kind hkind
    | _ => cases hrank
  rw [hlength] at hcount
  rcases hcount with ⟨hcount, hargs⟩ | ⟨hcount, hoperation⟩
  · exact .inl ⟨_, hargs, .wrongArgCount rfl hkind hcount, hclear₅⟩
  · refine .inr ⟨hoperation, hclear₅.succ fun fault hfault hrank => ?_⟩
    cases hfault with
    | wrongArgCount hhead hkind' hne =>
      obtain rfl := Option.some.inj hhead
      rw [Kind.opcode_injective (hkind'.trans hkind.symm)] at hne
      exact hne hcount
    | _ => cases hrank

end Steps

/-- A script is accepted and there is no objection to it, or it is rejected with the first one. -/
theorem parse_cases (encoding : Encoding) (script : Script) :
    (∃ fault, parse encoding script = .error fault ∧ FirstObjection encoding script fault) ∨
      (∃ operation, parse encoding script = .ok operation) ∧
        ∀ fault, ¬ Objection encoding script fault := by
  cases script with
  | nil => exact .inl ⟨_, rfl, .emptyScript rfl, fun fault _ => Nat.zero_le fault.rank⟩
  | cons head rest =>
    rw [parse]
    rcases readArguments_step encoding head rest with
      ⟨fault, hread, hfirst⟩ | ⟨args, hread, hlength, hclear₂⟩
    · exact .inl ⟨_, by rw [ofLayout, hread]; rfl, hfirst⟩
    rcases misfit?_step hclear₂ with ⟨cause, hmisfit, hfirst⟩ | ⟨hmisfit, hclear₄⟩
    · exact .inl ⟨_, by rw [ofLayout, hread, hmisfit]; rfl, hfirst⟩
    have hparse : ofLayout encoding (.ofCons head rest) =
        (ofArgs head.opcode args).mapError .rejected := by
      rw [ofLayout, hread, hmisfit]
      rfl
    rcases ofArgs_step hclear₄ hlength with
      ⟨cause, hargs, hfirst⟩ | ⟨⟨operation, hargs⟩, hclear₆⟩
    · exact .inl ⟨_, by rw [hparse, hargs]; rfl, hfirst⟩
    · exact .inr ⟨⟨operation, by rw [hparse, hargs]; rfl⟩, hclear₆.not_objection⟩

/-- A script is rejected exactly with the first objection to it. -/
theorem parse_eq_error_iff {encoding : Encoding} {script : Script} {fault : Fault} :
    parse encoding script = .error fault ↔ FirstObjection encoding script fault := by
  rcases parse_cases encoding script with ⟨found, hparse, hfirst⟩ | ⟨⟨operation, hparse⟩, hnone⟩
  · rw [hparse, Except.error.injEq]
    refine ⟨?_, hfirst.eq⟩
    rintro rfl
    exact hfirst
  · rw [hparse]
    exact iff_of_false (by simp) fun hfirst => hnone fault hfirst.objection

/-- A script is accepted exactly if there is no objection to it. -/
theorem exists_parse_eq_ok_iff {encoding : Encoding} {script : Script} :
    (∃ operation, parse encoding script = .ok operation) ↔
      ∀ fault, ¬ Objection encoding script fault := by
  rcases parse_cases encoding script with ⟨found, hparse, hfirst⟩ | ⟨hok, hnone⟩
  · rw [hparse]
    exact iff_of_false (by simp) fun hnone => hnone found hfirst.objection
  · exact iff_of_true hok hnone

/-- Under a charset nothing comes before what is wrong with the layout. -/
theorem clearBelow_two (charset : Charset) (hne : script ≠ []) :
    ClearBelow (.known charset) script 2 := by
  intro fault hfault
  cases hfault with
  | emptyScript hnil => exact absurd hnil hne
  | unknownEncoding hlabel => cases hlabel
  | unreadable hcodec => cases hcodec
  | _ => simp [Fault.rank]

/-- Under a charset a script is rejected with the instruction at which its arguments end, if that
is no delimiter. -/
theorem parse_known_of_not_isDrop (charset : Charset) {i : Instruction}
    (hi : script[script.argumentsEnd]? = some i) (hdrop : ¬ i.IsDrop) :
    parse (.known charset) script =
      .error (.rejected (.opcodeOutOfRange i.opcode script.argumentsEnd)) := by
  have hne : script ≠ [] := by
    rintro rfl
    cases hi
  exact parse_eq_error_iff.mpr ⟨.opcodeOutOfRange hi hdrop, clearBelow_two charset hne⟩

/-- Under a charset a script is rejected that has nothing but delimiters after its arguments. -/
theorem parse_known_of_forall_isDrop (charset : Charset) (hne : script ≠ [])
    (hdrops : ∀ i ∈ script.drop script.argumentsEnd, i.IsDrop) :
    parse (.known charset) script = .error (.rejected .noDelimiter) := by
  refine parse_eq_error_iff.mpr ⟨.noDelimiter hdrops, (clearBelow_two charset hne).succ ?_⟩
  intro fault hfault hrank
  cases hfault with
  | @opcodeOutOfRange i hi hdrop =>
    rw [← List.head?_drop] at hi
    exact hdrop (hdrops i (List.mem_of_mem_head? hi))
  | _ => cases hrank

/-- Under a charset a script that is not accepted is rejected, and nothing else goes wrong. -/
theorem exists_rejection_of_parse_known {charset : Charset} {fault : Fault}
    (h : parse (.known charset) script = .error fault) :
    ∃ cause : Rejection, fault = .rejected cause := by
  have hfirst := parse_eq_error_iff.mp h
  -- Two of the objections are no rejections, and neither is held against a charset.
  cases hfirst.objection with
  | unknownEncoding hlabel => cases hlabel
  | unreadable hcodec => cases hcodec
  | _ => exact ⟨_, rfl⟩

/-- The encoding does not matter if no argument has data. -/
theorem parse_eq_parse_of_getD_eq_nil {script : Script}
    (h : ∀ position i, 1 ≤ position → position < script.argumentsEnd →
      script[position]? = some i → i.data.getD [] = []) (encoding other : Encoding) :
    parse encoding script = parse other script := by
  cases script with
  | nil => rfl
  | cons head rest =>
    have hempty : ∀ i ∈ (Layout.ofCons head rest).arguments, i.data.getD [] = [] := by
      intro i hi
      obtain ⟨position, hone, hlt, hposition⟩ := (Layout.mem_arguments_ofCons_iff head rest).mp hi
      exact h position i hone hlt hposition
    have hread : (Layout.ofCons head rest).readArguments encoding =
        (Layout.ofCons head rest).readArguments other :=
      (Script.mapM_read_of_getD_eq_nil encoding hempty).trans
        (Script.mapM_read_of_getD_eq_nil other hempty).symm
    rw [parse, parse, ofLayout, ofLayout, hread]

end Operation

namespace Descriptor

variable {Source : Type} {encoding : Encoding} {pair : ScriptPair} {source : Source}

/-- Without encoding and source, a descriptor is what the locking script gives. -/
theorem map_operation_parse :
    (parse encoding pair source).map operation = Operation.parse encoding pair.locking := by
  unfold parse
  cases Operation.parse encoding pair.locking <;> rfl

/-- A pair is rejected with the fault with which its locking script is. -/
theorem parse_eq_error_iff {fault : Fault} :
    parse encoding pair source = .error fault ↔
      Operation.parse encoding pair.locking = .error fault := by
  unfold parse
  cases Operation.parse encoding pair.locking <;> simp [bind, Except.bind, pure, Except.pure]

/-- A pair is accepted if its locking script is. -/
theorem exists_parse_eq_ok_iff :
    (∃ d, parse encoding pair source = .ok d) ↔
      ∃ operation, Operation.parse encoding pair.locking = .ok operation := by
  unfold parse
  cases Operation.parse encoding pair.locking <;> simp [bind, Except.bind, pure, Except.pure]

/-- A pair is rejected with the first objection to its locking script, and accepted if there is
none. Under a charset that is always a rejection of the script. The encoding makes no difference
unless an argument has data. -/
theorem parse_fails_by_first_objection (encoding : Encoding) (pair : ScriptPair)
    (source : Source) :
    IsLeast {k : Nat | 1 ≤ k ∧ ∀ i, pair.locking[k]? = some i →
        ¬ (0 ≤ i.opcode ∧ i.opcode ≤ Opcode.pushData4)} pair.locking.argumentsEnd ∧
      (∀ fault, parse encoding pair source = .error fault ↔
        Operation.Objection encoding pair.locking fault ∧
          ∀ other, Operation.Objection encoding pair.locking other → fault.rank ≤ other.rank) ∧
      ((∃ d, parse encoding pair source = .ok d) ↔
        ∀ fault, ¬ Operation.Objection encoding pair.locking fault) ∧
      (∀ charset fault, parse (.known charset) pair source = .error fault →
        ∃ cause : Rejection, fault = .rejected cause) ∧
      ((∀ position i, 1 ≤ position → position < pair.locking.argumentsEnd →
          pair.locking[position]? = some i → i.data.getD [] = []) →
        ∀ other : Encoding, (parse encoding pair source).map operation =
          (parse other pair source).map operation) := by
  refine ⟨Script.isLeast_argumentsEnd pair.locking, ?_, ?_, ?_, ?_⟩
  · intro fault
    rw [parse_eq_error_iff, Operation.parse_eq_error_iff]
    exact ⟨fun h => ⟨h.objection, h.clear⟩, fun h => ⟨h.1, h.2⟩⟩
  · exact exists_parse_eq_ok_iff.trans Operation.exists_parse_eq_ok_iff
  · intro charset fault h
    exact Operation.exists_rejection_of_parse_known (parse_eq_error_iff.mp h)
  · intro h other
    rw [map_operation_parse, map_operation_parse]
    exact Operation.parse_eq_parse_of_getD_eq_nil h encoding other

/-- UTF-16 reads the data of one script and not those of another. So it is neither an encoding under
which scripts are only rejected, nor one that fails on all data. -/
theorem parse_under_utf16 :
    let utf16 : Encoding := .other .utf16
    let pair (data : Bytes) : ScriptPair :=
      .ofLocking [⟨81, none⟩, ⟨data.length, some data⟩, ⟨109, none⟩, ⟨106, none⟩]
    let fault : Fault := .encoding .undecodable
    parse utf16 (pair [0x61, 0x00]) () = .ok ⟨.new [.ofByte 0x61], utf16, ()⟩ ∧
      parse utf16 (pair [0x00]) () = .error fault ∧
      (∀ cause : Rejection, fault ≠ .rejected cause) ∧
      ∀ label : String, fault ≠ .encoding (.unknownEncoding label) :=
  ⟨rfl, rfl, nofun, nofun⟩

/-- The head tells no operation either, and the encoding is not known. -/
example : Operation.parse (.unknown "bogus") [⟨80, none⟩, ⟨2, some []⟩, ⟨81, none⟩] =
    .error (.rejected (.opcodeOutOfRange 81 2)) := rfl

end Descriptor

end NameOutputs
