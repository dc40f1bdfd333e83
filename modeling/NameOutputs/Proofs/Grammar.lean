import Mathlib.Data.List.Basic
import Mathlib.Data.List.TakeWhile
import NameOutputs.Descriptor
import NameOutputs.Proofs.Instruction

/-!
# The grammar of scripts that carry name operations

`Layout.WellFormed` is the grammar, stated over a split of the script into its four parts and not
over how the split is found. `Operation.parse_known_eq_ok_iff` shows that a script is accepted,
under a charset, exactly when it has a well-formed split, and that the operation is then the one of
the head's opcode on the texts of the arguments. A well-formed split is the one that `Layout.ofCons`
finds (`ofCons_of_wellFormed`): the runs of arguments and of delimiters are the longest there are,
since no delimiter is an argument and the payment starts with no delimiter. So it is unique.
-/

namespace NameOutputs

/-- The grammar of a script that carries a name operation, as a condition on its four parts. -/
structure Layout.WellFormed (layout : Layout) : Prop where
  /-- The head tells a kind of operation, which takes as many arguments as there are. -/
  kind : ∃ kind : Operation.Kind,
    layout.head.opcode = kind.opcode ∧ layout.arguments.length = kind.arity
  /-- The arguments push data, with opcodes from zero up. -/
  arguments : ∀ i ∈ layout.arguments, 0 ≤ i.opcode ∧ i.opcode ≤ Opcode.pushData4
  /-- There is a delimiter. -/
  delimiters_ne_nil : layout.delimiters ≠ []
  /-- The delimiters are drops. -/
  delimiters : ∀ i ∈ layout.delimiters, i.IsDrop
  /-- The payment has a first instruction, and it is no drop. -/
  payment : ∃ i rest, layout.payment = i :: rest ∧ ¬ i.IsDrop

namespace Layout

/-- The texts of the arguments under a charset. -/
def texts (layout : Layout) (charset : Charset) : List Text :=
  layout.arguments.map fun i => charset.decode (i.data.getD [])

/-- The texts depend on the data of the arguments alone. -/
theorem texts_congr {layout other : Layout} (charset : Charset)
    (h : layout.arguments.map Instruction.data = other.arguments.map Instruction.data) :
    layout.texts charset = other.texts charset := by
  have hmap := congrArg (List.map fun data => charset.decode (data.getD [])) h
  rw [List.map_map, List.map_map] at hmap
  exact hmap

/-- Under a charset the arguments can be read, whatever their data. -/
theorem readArguments_known (layout : Layout) (charset : Charset) :
    layout.readArguments (.known charset) = .ok (layout.texts charset) := by
  unfold readArguments texts
  simp only [Encoding.read_known]
  exact List.mapM_pure

/-- Nothing is wrong with a layout that has delimiters and a payment, and with no other. -/
theorem misfit?_eq_none_iff (layout : Layout) :
    layout.misfit? = none ↔ layout.delimiters ≠ [] ∧ layout.payment ≠ [] := by
  unfold misfit?
  cases layout.delimiters <;> cases layout.payment <;> simp

/-- Nothing is wrong with a well-formed layout. -/
theorem WellFormed.misfit?_eq_none {layout : Layout} (h : layout.WellFormed) :
    layout.misfit? = none := by
  obtain ⟨i, rest, hpayment, -⟩ := h.payment
  exact (misfit?_eq_none_iff layout).mpr ⟨h.delimiters_ne_nil, by rw [hpayment]; simp⟩

/-- A run of instructions that pass the test, up to one that does not, is what `takeWhile` takes and
`dropWhile` drops. -/
theorem takeWhile_dropWhile_append {test : Instruction → Bool} {run : Script} {i : Instruction}
    (hrun : ∀ j ∈ run, test j = true) (hi : test i = false) (rest : Script) :
    (run ++ i :: rest).takeWhile test = run ∧ (run ++ i :: rest).dropWhile test = i :: rest := by
  have hni : ¬ test i = true := by rw [hi]; exact Bool.false_ne_true
  constructor
  · rw [List.takeWhile_append_of_pos hrun, List.takeWhile_cons_of_neg hni, List.append_nil]
  · rw [List.dropWhile_append_of_pos hrun, List.dropWhile_cons_of_neg hni]

/-- A well-formed layout is the one that its script is laid out in. -/
theorem ofCons_of_wellFormed {layout : Layout} (h : layout.WellFormed) :
    ofCons layout.head (layout.arguments ++ layout.delimiters ++ layout.payment) = layout := by
  obtain ⟨head, arguments, delimiters, payment⟩ := layout
  obtain ⟨-, harguments, hne, hdelimiters, i, rest, hpayment, hi⟩ := h
  simp only at harguments hne hdelimiters hpayment
  subst hpayment
  obtain ⟨d, ds, rfl⟩ := List.exists_cons_of_ne_nil hne
  -- The first delimiter ends the run of arguments, and the payment that of the delimiters.
  have hd : d.isArgument = false := (hdelimiters d (by simp)).isArgument_eq_false
  have hi' : i.isDelimiter = false := by
    rw [Bool.eq_false_iff, ne_eq, Instruction.isDelimiter_iff]
    exact hi
  obtain ⟨htake, hdrop⟩ := takeWhile_dropWhile_append
    (fun j hj => (Instruction.isArgument_iff j).mpr (harguments j hj)) hd (ds ++ i :: rest)
  obtain ⟨htake', hdrop'⟩ := takeWhile_dropWhile_append
    (fun j hj => (Instruction.isDelimiter_iff j).mpr (hdelimiters j hj)) hi' rest
  unfold ofCons
  simp only [List.append_assoc, List.cons_append] at htake hdrop htake' hdrop' ⊢
  rw [htake, hdrop, htake', hdrop']

/-- Well-formed layouts of one script are the same. -/
theorem WellFormed.eq_of_script_eq {layout other : Layout} (h : layout.WellFormed)
    (h' : other.WellFormed) (hscript : layout.script = other.script) : layout = other := by
  unfold script at hscript
  obtain ⟨hhead, hrest⟩ := List.cons.inj hscript
  rw [← ofCons_of_wellFormed h, ← ofCons_of_wellFormed h', hhead, hrest]

/-- The layout that is found has arguments where it should, and likewise delimiters. -/
theorem mem_ofCons (head : Instruction) (rest : Script) :
    (∀ i ∈ (ofCons head rest).arguments, 0 ≤ i.opcode ∧ i.opcode ≤ Opcode.pushData4) ∧
      ∀ i ∈ (ofCons head rest).delimiters, i.IsDrop := by
  constructor
  · intro i hi
    exact (Instruction.isArgument_iff i).mp (List.mem_takeWhile_imp hi)
  · intro i hi
    exact (Instruction.isDelimiter_iff i).mp (List.mem_takeWhile_imp hi)

/-- The payment of the layout that is found does not start with a delimiter. -/
theorem not_isDrop_of_payment_ofCons {head i : Instruction} {rest payment : Script}
    (h : (ofCons head rest).payment = i :: payment) : ¬ i.IsDrop := by
  have hhead := List.head?_dropWhile_not Instruction.isDelimiter
    (rest.dropWhile Instruction.isArgument)
  unfold ofCons at h
  simp only at h
  rw [h] at hhead
  rw [← Instruction.isDelimiter_iff]
  simpa using hhead

end Layout

namespace Operation

/-- An operation is made when it is the one of the opcode on the arguments. -/
theorem ofArgs_eq_ok_iff {opcode : Int} {args : List Text} {operation : Operation} :
    ofArgs opcode args = .ok operation ↔ operation.opcode = opcode ∧ operation.args = args := by
  constructor
  · intro h
    unfold ofArgs at h
    split at h <;> cases h
    · next hkind => exact ⟨Kind.ofOpcode?_eq_some_iff.mp hkind, rfl⟩
    · next hkind => exact ⟨Kind.ofOpcode?_eq_some_iff.mp hkind, rfl⟩
    · next hkind => exact ⟨Kind.ofOpcode?_eq_some_iff.mp hkind, rfl⟩
  · rintro ⟨rfl, rfl⟩
    exact ofArgs_opcode_args operation

/-- Every kind has an operation on as many arguments as it takes. -/
theorem exists_of_length_eq_arity (kind : Kind) {args : List Text}
    (h : args.length = kind.arity) :
    ∃ operation : Operation, operation.kind = kind ∧ operation.args = args := by
  cases kind with
  | new =>
    obtain ⟨hash, rfl⟩ := List.length_eq_one_iff.mp h
    exact ⟨.new hash, rfl, rfl⟩
  | firstUpdate =>
    obtain ⟨name, salt, value, rfl⟩ := List.length_eq_three.mp h
    exact ⟨.firstUpdate name salt value, rfl, rfl⟩
  | update =>
    obtain ⟨name, value, rfl⟩ := List.length_eq_two.mp h
    exact ⟨.update name value, rfl, rfl⟩

/-- Under a charset an operation is made of a layout when the layout fits and the operation is the
one of the head on the texts of the arguments. -/
theorem ofLayout_known_eq_ok_iff {charset : Charset} {layout : Layout} {operation : Operation} :
    ofLayout (.known charset) layout = .ok operation ↔
      layout.misfit? = none ∧ operation.opcode = layout.head.opcode ∧
        operation.args = layout.texts charset := by
  unfold ofLayout
  rw [Layout.readArguments_known, ← ofArgs_eq_ok_iff]
  simp only [Except.mapError, bind, Except.bind]
  cases layout.misfit? with
  | some cause => simp [throw, throwThe, MonadExceptOf.throw]
  | none => cases ofArgs layout.head.opcode (layout.texts charset) <;> simp

/-- Under a charset a script is accepted exactly when it has a well-formed layout, and the operation
is the one of the head on the texts of the arguments. -/
theorem parse_known_eq_ok_iff {charset : Charset} {script : Script} {operation : Operation} :
    parse (.known charset) script = .ok operation ↔
      ∃ layout : Layout, layout.script = script ∧ layout.WellFormed ∧
        operation.opcode = layout.head.opcode ∧ operation.args = layout.texts charset := by
  constructor
  · intro h
    cases script with
    | nil => cases h
    | cons head rest =>
      obtain ⟨hfits, hopcode, hargs⟩ := ofLayout_known_eq_ok_iff.mp h
      obtain ⟨hdelimiters, hpayment⟩ := (Layout.misfit?_eq_none_iff _).mp hfits
      obtain ⟨i, payment, hi⟩ := List.exists_cons_of_ne_nil hpayment
      obtain ⟨harguments, hdrops⟩ := Layout.mem_ofCons head rest
      -- The operation has the arguments that its kind takes, so the head's kind is its own.
      have hlength := congrArg List.length hargs
      rw [length_args, Layout.texts, List.length_map] at hlength
      exact ⟨.ofCons head rest, Layout.script_ofCons head rest,
        { kind := ⟨operation.kind, hopcode.symm, hlength.symm⟩
          arguments := harguments
          delimiters_ne_nil := hdelimiters
          delimiters := hdrops
          payment := ⟨i, payment, hi, Layout.not_isDrop_of_payment_ofCons hi⟩ },
        hopcode, hargs⟩
  · rintro ⟨layout, rfl, hlayout, hopcode, hargs⟩
    -- The script is laid out again in the layout that is given.
    show ofLayout (.known charset)
      (.ofCons layout.head (layout.arguments ++ layout.delimiters ++ layout.payment)) = _
    rw [Layout.ofCons_of_wellFormed hlayout]
    exact ofLayout_known_eq_ok_iff.mpr ⟨hlayout.misfit?_eq_none, hopcode, hargs⟩

/-- A script with a well-formed layout is accepted under every charset. -/
theorem exists_parse_of_wellFormed (charset : Charset) {layout : Layout} (h : layout.WellFormed) :
    ∃ operation, parse (.known charset) layout.script = .ok operation := by
  obtain ⟨kind, hopcode, hlength⟩ := h.kind
  have htexts : (layout.texts charset).length = kind.arity := by
    rw [Layout.texts, List.length_map, hlength]
  obtain ⟨operation, hkind, hargs⟩ := exists_of_length_eq_arity kind htexts
  refine ⟨operation, parse_known_eq_ok_iff.mpr ⟨layout, rfl, h, ?_, hargs⟩⟩
  rw [opcode, hkind, hopcode]

/-- The operation of a script is the one that any of its well-formed layouts tells. -/
theorem opcode_args_of_parse {charset : Charset} {layout : Layout} {operation : Operation}
    (h : layout.WellFormed) (hparse : parse (.known charset) layout.script = .ok operation) :
    operation.opcode = layout.head.opcode ∧ operation.args = layout.texts charset := by
  obtain ⟨other, hscript, hother, hopcode, hargs⟩ := parse_known_eq_ok_iff.mp hparse
  rw [hother.eq_of_script_eq h hscript] at hopcode hargs
  exact ⟨hopcode, hargs⟩

end Operation

namespace Descriptor

variable {Source : Type}

/-- A descriptor is the operation of the locking script, with the encoding and the source given. -/
theorem parse_eq_ok_iff {encoding : Encoding} {pair : ScriptPair} {source : Source}
    {d : Descriptor Source} :
    parse encoding pair source = .ok d ↔
      Operation.parse encoding pair.locking = .ok d.operation ∧ d.encoding = encoding ∧
        d.source = source := by
  unfold parse
  obtain ⟨operation, encoding', source'⟩ := d
  cases Operation.parse encoding pair.locking with
  | error fault => simp [bind, Except.bind]
  | ok found =>
    simp only [bind, Except.bind, pure, Except.pure, Except.ok.injEq, Descriptor.mk.injEq]
    exact and_congr_right fun _ => and_congr eq_comm eq_comm

/-- Parsing a pair finds the operation that parsing its locking script does. -/
theorem exists_parse_of_operation_parse {encoding : Encoding} {pair : ScriptPair}
    {operation : Operation} (source : Source)
    (h : Operation.parse encoding pair.locking = .ok operation) :
    ∃ d, parse encoding pair source = .ok d ∧ d.operation = operation :=
  ⟨⟨operation, encoding, source⟩, parse_eq_ok_iff.mpr ⟨h, rfl, rfl⟩, rfl⟩

/-- The script of a parsed descriptor has a well-formed layout, and the operation is the one of the
head on the texts of the arguments. -/
theorem exists_layout_of_parse {charset : Charset} {pair : ScriptPair} {source : Source}
    {d : Descriptor Source} (h : parse (.known charset) pair source = .ok d) :
    ∃ layout : Layout, layout.script = pair.locking ∧ layout.WellFormed ∧
      d.operation.opcode = layout.head.opcode ∧ d.operation.args = layout.texts charset :=
  Operation.parse_known_eq_ok_iff.mp (parse_eq_ok_iff.mp h).1

/-- Under a charset a pair is accepted exactly when its locking script can be split as the grammar
says. There is one such split at most. The descriptor has the opcode of the head and the texts of
the data of the arguments, and its source has the script that was split. Nothing else of the split
shows in the operation. -/
theorem parse_accepts_exactly_grammar (charset : Charset) (pair : ScriptPair) :
    ((∃ d, parse (.known charset) pair pair = .ok d) ↔
        ∃ layout : Layout, layout.script = pair.locking ∧ layout.WellFormed) ∧
      (∀ layout other : Layout, layout.script = pair.locking → layout.WellFormed →
        other.script = pair.locking → other.WellFormed → layout = other) ∧
      (∀ layout : Layout, layout.script = pair.locking → layout.WellFormed →
        ∃ d, parse (.known charset) pair pair = .ok d ∧
          d.operation.opcode = layout.head.opcode ∧
          d.operation.args.map Except.ok =
            layout.arguments.map (fun i => (Encoding.known charset).read i.data) ∧
          d.source.locking = layout.script) ∧
      (∀ layout other : Layout, layout.WellFormed → other.WellFormed →
        layout.head.opcode = other.head.opcode →
        layout.arguments.map Instruction.data = other.arguments.map Instruction.data →
        Operation.parse (.known charset) layout.script =
          Operation.parse (.known charset) other.script) := by
  refine ⟨⟨?_, ?_⟩, ?_, ?_, ?_⟩
  · rintro ⟨d, hd⟩
    obtain ⟨layout, hscript, hlayout, -⟩ :=
      Operation.parse_known_eq_ok_iff.mp (parse_eq_ok_iff.mp hd).1
    exact ⟨layout, hscript, hlayout⟩
  · rintro ⟨layout, hscript, hlayout⟩
    obtain ⟨operation, hparse⟩ := Operation.exists_parse_of_wellFormed charset hlayout
    rw [hscript] at hparse
    exact ⟨⟨operation, .known charset, pair⟩, parse_eq_ok_iff.mpr ⟨hparse, rfl, rfl⟩⟩
  · intro layout other hscript hlayout hscript' hother
    exact hlayout.eq_of_script_eq hother (hscript.trans hscript'.symm)
  · intro layout hscript hlayout
    obtain ⟨operation, hparse⟩ := Operation.exists_parse_of_wellFormed charset hlayout
    obtain ⟨hopcode, hargs⟩ := Operation.opcode_args_of_parse hlayout hparse
    rw [hscript] at hparse
    refine ⟨⟨operation, .known charset, pair⟩, parse_eq_ok_iff.mpr ⟨hparse, rfl, rfl⟩, hopcode, ?_,
      hscript.symm⟩
    simp only [hargs, Layout.texts, Encoding.read_known, List.map_map, Function.comp_def]
  · intro layout other hlayout hother hhead hdata
    -- Both scripts are accepted, with the same opcode and the same texts.
    obtain ⟨operation, hparse⟩ := Operation.exists_parse_of_wellFormed charset hlayout
    obtain ⟨hopcode, hargs⟩ := Operation.opcode_args_of_parse hlayout hparse
    have htexts : layout.texts charset = other.texts charset := Layout.texts_congr charset hdata
    rw [hparse]
    exact (Operation.parse_known_eq_ok_iff.mpr
      ⟨other, rfl, hother, hopcode.trans hhead, hargs.trans htexts⟩).symm

end Descriptor

end NameOutputs
