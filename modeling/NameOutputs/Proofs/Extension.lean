import NameOutputs.Proofs.Agreement
import NameOutputs.Proofs.Rejection

/-!
# Verdicts as a script goes on

A script is parsed from the front, and all that is asked of its payment is that there is one. So
once the payment has begun, nothing that is appended makes a difference, whether the script is
accepted or rejected: `parse_of_growing_script` shows that only a script that stops before any
payment can be judged otherwise when it goes on. Cut short at each of its instructions, an accepted
script is rejected for want of a payment up to the end of its delimiters and accepted as the same
operation from there on.

Both halves go by the layout. An appended script ends up in the payment part (`ofCons_append`), and
a beginning of the part before the payment has no payment part (`payment_ofCons_take`).
-/

namespace NameOutputs

namespace Layout

/-- Where a run of instructions that pass the test has ended, whatever is appended stands behind
it. -/
theorem takeWhile_dropWhile_append_of_ne_nil {test : Instruction → Bool} {script : Script}
    (h : script.dropWhile test ≠ []) (more : Script) :
    (script ++ more).takeWhile test = script.takeWhile test ∧
      (script ++ more).dropWhile test = script.dropWhile test ++ more := by
  have hlength : (script.takeWhile test).length ≠ script.length := by
    intro hall
    have hsum := congrArg List.length (List.takeWhile_append_dropWhile (p := test) (l := script))
    rw [List.length_append, hall] at hsum
    exact h (List.length_eq_zero_iff.mp (by omega))
  rw [List.takeWhile_append, List.dropWhile_append, if_neg hlength, if_neg (by simpa using h)]
  exact ⟨rfl, rfl⟩

/-- Behind a payment that has begun, whatever is appended belongs to the payment. -/
theorem ofCons_append {head : Instruction} {rest : Script}
    (h : (ofCons head rest).payment ≠ []) (more : Script) :
    ofCons head (rest ++ more) =
      { ofCons head rest with payment := (ofCons head rest).payment ++ more } := by
  have hrest : rest.dropWhile Instruction.isArgument ≠ [] := by
    intro hnil
    unfold ofCons at h
    simp [hnil] at h
  obtain ⟨htake, hdrop⟩ := takeWhile_dropWhile_append_of_ne_nil hrest more
  obtain ⟨htake', hdrop'⟩ := takeWhile_dropWhile_append_of_ne_nil h more
  unfold ofCons
  rw [htake, hdrop, htake', hdrop']

/-- What is wrong with a layout does not lie behind the first instruction of its payment. -/
theorem misfit?_append {layout : Layout} (h : layout.payment ≠ []) (more : Script) :
    misfit? { layout with payment := layout.payment ++ more } = layout.misfit? := by
  obtain ⟨i, payment, hpayment⟩ := List.exists_cons_of_ne_nil h
  unfold misfit?
  rw [hpayment, List.cons_append]
  cases layout.delimiters <;> rfl

/-- A layout without a payment is that of no operation. -/
theorem misfit?_of_payment_eq_nil {layout : Layout} (h : layout.payment = []) :
    layout.misfit? = some .noDelimiter := by
  unfold misfit?
  rw [h]
  cases layout.delimiters <;> rfl

/-- A beginning of arguments and then delimiters has no payment part. -/
theorem payment_ofCons_take (head : Instruction) {arguments delimiters : Script}
    (harguments : ∀ i ∈ arguments, i.isArgument = true)
    (hdelimiters : ∀ i ∈ delimiters, i.isDelimiter = true) (n : Nat) :
    (ofCons head ((arguments ++ delimiters).take n)).payment = [] := by
  have harguments' : ∀ i ∈ arguments.take n, i.isArgument = true := fun i hi =>
    harguments i (List.mem_of_mem_take hi)
  unfold ofCons
  simp only
  rw [List.take_append, List.dropWhile_append_of_pos harguments', List.dropWhile_eq_nil_iff]
  -- What is left when the arguments are dropped is some of the delimiters.
  intro i hi
  have htake := (List.dropWhile_suffix Instruction.isArgument).subset hi
  exact hdelimiters i (List.mem_of_mem_take htake)

/-- A well-formed layout stays so when its payment is cut short, as long as any of it is left. -/
theorem WellFormed.take_payment {layout : Layout} (h : layout.WellFormed) {n : Nat} (hn : 0 < n) :
    WellFormed { layout with payment := layout.payment.take n } where
  kind := h.kind
  arguments := h.arguments
  delimiters_ne_nil := h.delimiters_ne_nil
  delimiters := h.delimiters
  payment := by
    obtain ⟨i, rest, hpayment, hi⟩ := h.payment
    obtain ⟨m, rfl⟩ := Nat.exists_eq_add_of_le' hn
    exact ⟨i, rest.take m, by rw [hpayment]; rfl, hi⟩

end Layout

namespace Operation

variable {charset : Charset} {script : Script}

/-- The operation of a layout does not depend on what stands behind the first instruction of the
payment. -/
theorem ofLayout_append (encoding : Encoding) {layout : Layout} (h : layout.payment ≠ [])
    (more : Script) :
    ofLayout encoding { layout with payment := layout.payment ++ more } =
      ofLayout encoding layout := by
  unfold ofLayout
  rw [Layout.misfit?_append h]
  rfl

/-- Once the payment has begun, the verdict stands under any encoding. -/
theorem parse_append_of_payment_ne_nil (encoding : Encoding) {head : Instruction} {rest : Script}
    (h : (Layout.ofCons head rest).payment ≠ []) (more : Script) :
    parse encoding (head :: rest ++ more) = parse encoding (head :: rest) := by
  calc parse encoding (head :: rest ++ more)
      = ofLayout encoding (.ofCons head (rest ++ more)) := rfl
    _ = ofLayout encoding (.ofCons head rest) := by
        rw [Layout.ofCons_append h, ofLayout_append encoding h]
    _ = parse encoding (head :: rest) := rfl

/-- Under a charset, a script with a first instruction and without a payment is rejected for want of
one. -/
theorem parse_known_of_payment_eq_nil (charset : Charset) {head : Instruction} {rest : Script}
    (h : (Layout.ofCons head rest).payment = []) :
    parse (.known charset) (head :: rest) = .error (.rejected .noDelimiter) := by
  show ofLayout (.known charset) (.ofCons head rest) = _
  unfold ofLayout
  rw [Layout.readArguments_known, Layout.misfit?_of_payment_eq_nil h]
  rfl

/-- Under a charset the verdict stands, unless the script stops before any payment. -/
theorem parse_known_append
    (hempty : parse (.known charset) script ≠ .error (.rejected .emptyScript))
    (hdelimiter : parse (.known charset) script ≠ .error (.rejected .noDelimiter))
    (more : Script) :
    parse (.known charset) (script ++ more) = parse (.known charset) script := by
  cases script with
  | nil => exact absurd rfl hempty
  | cons head rest =>
    have hpayment : (Layout.ofCons head rest).payment ≠ [] := fun hnil =>
      hdelimiter (parse_known_of_payment_eq_nil charset hnil)
    exact parse_append_of_payment_ne_nil (.known charset) hpayment more

/-- An accepted script is accepted as the same operation however it goes on. -/
theorem parse_known_append_of_eq_ok {operation : Operation}
    (h : parse (.known charset) script = .ok operation) (more : Script) :
    parse (.known charset) (script ++ more) = .ok operation := by
  rw [parse_known_append (by rw [h]; exact nofun) (by rw [h]; exact nofun), h]

/-- A rejected script is rejected for the same cause however it goes on, unless it stops before any
payment. -/
theorem parse_known_append_of_eq_error {fault : Fault}
    (h : parse (.known charset) script = .error fault) (hempty : fault ≠ .rejected .emptyScript)
    (hdelimiter : fault ≠ .rejected .noDelimiter) (more : Script) :
    parse (.known charset) (script ++ more) = .error fault := by
  have hempty' : parse (.known charset) script ≠ .error (.rejected .emptyScript) := by
    rwa [h, ne_eq, Except.error.injEq]
  have hdelimiter' : parse (.known charset) script ≠ .error (.rejected .noDelimiter) := by
    rwa [h, ne_eq, Except.error.injEq]
  rw [parse_known_append hempty' hdelimiter', h]

variable {layout : Layout} (hlayout : layout.WellFormed)
include hlayout

/-- Cut short before its payment, a script with an operation is rejected for want of a payment. -/
theorem parse_known_take_of_le {n : Nat} (hn : 1 ≤ n) (hle : n ≤ layout.operationPart.length) :
    parse (.known charset) (layout.script.take n) = .error (.rejected .noDelimiter) := by
  obtain ⟨m, rfl⟩ := Nat.exists_eq_add_of_le' hn
  have hm : m ≤ (layout.arguments ++ layout.delimiters).length := by
    simp only [Layout.operationPart, List.cons_append, List.length_cons] at hle
    omega
  have htake : layout.script.take (m + 1) =
      layout.head :: (layout.arguments ++ layout.delimiters).take m := by
    rw [Layout.script, List.take_succ_cons, List.take_append_of_le_length hm]
  have hpayment := Layout.payment_ofCons_take layout.head
    (fun i hi => (Instruction.isArgument_iff i).mpr (hlayout.arguments i hi))
    (fun i hi => (Instruction.isDelimiter_iff i).mpr (hlayout.delimiters i hi)) m
  rw [htake]
  exact parse_known_of_payment_eq_nil charset hpayment

/-- Cut short inside its payment, a script with an operation carries the same operation. -/
theorem parse_known_take_of_lt {n : Nat} (hlt : layout.operationPart.length < n) :
    parse (.known charset) (layout.script.take n) = parse (.known charset) layout.script := by
  obtain ⟨m, rfl⟩ := Nat.exists_eq_add_of_lt hlt
  have hcut := hlayout.take_payment (n := m + 1) (Nat.succ_pos m)
  obtain ⟨operation, hparse⟩ := exists_parse_of_wellFormed charset hcut
  have htake : layout.script.take (layout.operationPart.length + m + 1) =
      Layout.script { layout with payment := layout.payment.take (m + 1) } := by
    rw [layout.script_eq, Nat.add_assoc, List.take_length_add_append, Layout.script_eq]
    rfl
  rw [← htake] at hparse
  calc parse (.known charset) (layout.script.take (layout.operationPart.length + m + 1))
      = .ok operation := hparse
    -- The whole script is the beginning with more behind it.
    _ = parse (.known charset) (layout.script.take (layout.operationPart.length + m + 1) ++
          layout.script.drop (layout.operationPart.length + m + 1)) :=
        (parse_known_append_of_eq_ok hparse _).symm
    _ = parse (.known charset) layout.script := by rw [List.take_append_drop]

end Operation

namespace Descriptor

variable {Source Other : Type}

/-- Under a charset, an accepted script is rejected as empty if nothing of it is left, for want of a
payment if it is cut short at or before the end of its delimiters, and accepted as the same
operation if it is cut short behind that. When a script goes on, one that is accepted is accepted as
the same operation, and one that is rejected is rejected for the same cause unless it stopped before
any payment; so only the verdict on such a script can change. -/
theorem parse_of_growing_script (charset : Charset) (pair : ScriptPair) (source : Source) :
    (∀ d, parse (.known charset) pair source = .ok d →
      ∃ layout : Layout, layout.script = pair.locking ∧ layout.WellFormed ∧
        ∀ (cut : ScriptPair) (source' : Other) (n : Nat), cut.locking = pair.locking.take n →
          (n = 0 → parse (.known charset) cut source' = .error (.rejected .emptyScript)) ∧
            (1 ≤ n → n ≤ layout.operationPart.length →
              parse (.known charset) cut source' = .error (.rejected .noDelimiter)) ∧
            (layout.operationPart.length < n →
              ∃ d', parse (.known charset) cut source' = .ok d' ∧
                d'.operation = d.operation)) ∧
      ∀ (longer : ScriptPair) (source' : Other) (more : Script),
        longer.locking = pair.locking ++ more →
          (∀ d, parse (.known charset) pair source = .ok d →
            ∃ d', parse (.known charset) longer source' = .ok d' ∧ d'.operation = d.operation) ∧
          (∀ fault, parse (.known charset) pair source = .error fault →
            fault ≠ .rejected .emptyScript → fault ≠ .rejected .noDelimiter →
            parse (.known charset) longer source' = .error fault) ∧
          ((parse (.known charset) longer source').map operation ≠
              (parse (.known charset) pair source).map operation →
            parse (.known charset) pair source = .error (.rejected .emptyScript) ∨
              parse (.known charset) pair source = .error (.rejected .noDelimiter)) := by
  constructor
  · intro d hd
    have hparse : Operation.parse (.known charset) pair.locking = .ok d.operation :=
      (parse_eq_ok_iff.mp hd).1
    obtain ⟨layout, hscript, hlayout, -⟩ := exists_layout_of_parse hd
    refine ⟨layout, hscript, hlayout, fun cut source' n hcut =>
      ⟨?_, fun hn hle => ?_, fun hlt => ?_⟩⟩
    · rintro rfl
      rw [parse_eq_error_iff, hcut]
      rfl
    · rw [parse_eq_error_iff, hcut, ← hscript]
      exact Operation.parse_known_take_of_le hlayout hn hle
    · apply exists_parse_of_operation_parse
      rw [hcut, ← hscript, Operation.parse_known_take_of_lt hlayout hlt, hscript, hparse]
  · intro longer source' more hlonger
    refine ⟨fun d hd => ?_, fun fault hfault hempty hdelimiter => ?_, fun hchanged => ?_⟩
    · apply exists_parse_of_operation_parse
      rw [hlonger]
      exact Operation.parse_known_append_of_eq_ok (parse_eq_ok_iff.mp hd).1 more
    · rw [parse_eq_error_iff, hlonger]
      exact Operation.parse_known_append_of_eq_error (parse_eq_error_iff.mp hfault) hempty
        hdelimiter more
    · by_contra hopen
      rw [parse_eq_error_iff, parse_eq_error_iff, not_or] at hopen
      rw [map_operation_parse, map_operation_parse, hlonger] at hchanged
      exact hchanged (Operation.parse_known_append hopen.1 hopen.2 more)

end Descriptor

end NameOutputs
