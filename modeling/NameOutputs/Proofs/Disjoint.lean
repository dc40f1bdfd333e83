import NameOutputs.Proofs.Agreement
import NameOutputs.Proofs.Payment.Classification
import NameOutputs.Proofs.Rejection

/-!
# Payments carry no operations

A script that is a known payment on its own carries no name operation, although the opcodes that
tell operations also start payments to several keys. `known_payment_carries_no_operation` shows that
such a script is rejected, and that its output is read as just the payment.

Behind the first instruction, each shape but that of a burn has pushes, which may be none, up to an
instruction that neither pushes nor drops (`HasShape.pushesUpToOther_tail`). So the run of arguments
ends at a push or at that instruction, before any delimiter (`PushesUpToOther.exists_argumentsEnd`).
-/

namespace NameOutputs.Payment

/-- Behind pushes up to an instruction that is other, the run of arguments ends at no delimiter. -/
theorem PushesUpToOther.exists_argumentsEnd (head : Instruction) {rest : Script}
    (h : PushesUpToOther rest) :
    ∃ i, (head :: rest)[Script.argumentsEnd (head :: rest)]? = some i ∧ ¬ i.IsDrop := by
  obtain ⟨front, j, back, rfl, hfront, hj⟩ := h
  obtain ⟨⟨hone, -⟩, hleast⟩ := Script.isLeast_argumentsEnd (head :: (front ++ j :: back))
  generalize Script.argumentsEnd (head :: (front ++ j :: back)) = k at hone hleast ⊢
  obtain ⟨k, rfl⟩ := Nat.exists_eq_add_of_le' hone
  -- The other instruction is no argument, so the run ends there or before.
  have hle : k + 1 ≤ front.length + 1 := by
    refine hleast ⟨Nat.le_add_left 1 _, fun i hi harg => ?_⟩
    rw [List.getElem?_cons_succ, List.getElem?_append_right le_rfl, Nat.sub_self] at hi
    obtain rfl := Option.some.inj hi
    exact hj.1 (.inl harg.2)
  rw [List.getElem?_cons_succ]
  rcases Nat.lt_or_eq_of_le (Nat.le_of_succ_le_succ hle) with hlt | rfl
  · have hpush : front[k].IsPush := hfront _ (List.getElem_mem hlt)
    refine ⟨front[k], ?_, fun hdrop => hdrop.not_isPush hpush⟩
    rw [List.getElem?_append_left hlt, List.getElem?_eq_getElem hlt]
  · refine ⟨j, ?_, hj.2⟩
    rw [List.getElem?_append_right le_rfl, Nat.sub_self]
    rfl

/-- The first opcode of a payment to several keys tells a kind of operation. -/
theorem HasShape.exists_kind_of_multisig {script : Script} {required : Nat} {keys : List Bytes}
    (h : HasShape script (.multisig required keys)) :
    ∃ kind : Operation.Kind, script.head?.map Instruction.opcode = some kind.opcode := by
  cases h with
  | @multisig head _ _ keys _ _ hscript hhead _ _ _ hone hle hmax =>
    subst hscript
    have hthree : required ≤ 3 := hle.trans hmax
    have hcases : required = 1 ∨ required = 2 ∨ required = 3 := by omega
    simp only [List.head?_cons, Option.map_some, Option.some.injEq, hhead]
    rcases hcases with rfl | rfl | rfl
    · exact ⟨.new, rfl⟩
    · exact ⟨.firstUpdate, rfl⟩
    · exact ⟨.update, rfl⟩

/-- Why a script that is a payment carries no operation. -/
theorem HasShape.exists_rejection {script : Script} {payment : Payment}
    (h : HasShape script payment) (charset : Charset) :
    ∃ cause : Rejection, Operation.parse (.known charset) script = .error (.rejected cause) ∧
      (payment = .burn → cause = .noDelimiter) ∧
      (payment ≠ .burn → ∃ i, script[script.argumentsEnd]? = some i ∧
        cause = .opcodeOutOfRange i.opcode script.argumentsEnd) := by
  by_cases hburn : payment = .burn
  · subst hburn
    cases h with
    | @burn stop =>
      have hparse := Operation.parse_known_of_forall_isDrop charset (List.cons_ne_nil stop [])
        (by simp [Script.argumentsEnd])
      exact ⟨_, hparse, fun _ => rfl, fun hne => absurd rfl hne⟩
  · have htail := h.pushesUpToOther_tail hburn
    cases script with
    | nil => cases h with | multisig hscript => cases hscript
    | cons head rest =>
      obtain ⟨i, hi, hdrop⟩ := PushesUpToOther.exists_argumentsEnd head htail
      exact ⟨_, Operation.parse_known_of_not_isDrop charset hi hdrop,
        fun hpayment => absurd hpayment hburn, fun _ => ⟨i, hi, rfl⟩⟩

end NameOutputs.Payment

namespace NameOutputs

open Payment (HasShape)

/-- A script that is a known payment carries no operation: a burn has no delimiter, and any other
has an instruction out of range where its arguments end. Its output is just the payment. That holds
for payments to several keys too, although their first opcode tells a kind of operation. -/
theorem known_payment_carries_no_operation {script : Script}
    (h : (Payment.ofScript script).isKnown = true) :
    ∃ cause : Rejection,
      Descriptor.parse .standard (.ofLocking script) (ScriptPair.ofLocking script) =
          .error (.rejected cause) ∧
        (Payment.ofScript script = .burn → cause = .noDelimiter) ∧
        (Payment.ofScript script ≠ .burn →
          ∃ i, script[script.argumentsEnd]? = some i ∧
            cause = .opcodeOutOfRange i.opcode script.argumentsEnd) ∧
        Output.ofScript script =
          .ok { answer := { descriptor? := none, payment := Payment.ofScript script },
                log := [{ channel := .outputs, cause }] } ∧
        ∀ required keys, Payment.ofScript script = .multisig required keys →
          ∃ kind : Operation.Kind,
            script.head?.map Instruction.opcode = some kind.opcode := by
  have hshape : HasShape script (Payment.ofScript script) :=
    (Payment.ofScript_eq_iff_of_isKnown h).mp rfl
  obtain ⟨cause, hparse, hburn, hrange⟩ := hshape.exists_rejection .latin1
  have hrejected : Descriptor.parse .standard (.ofLocking script) (ScriptPair.ofLocking script) =
      .error (.rejected cause) := Descriptor.parse_eq_error_iff.mpr hparse
  have hpayment : Payment.ofOutput script = Payment.ofScript script :=
    Payment.ofOutput_append preamble_nil (Payment.pushesUpToOther_of_isKnown h)
  refine ⟨cause, hrejected, hburn, hrange, ?_, fun required keys hkeys => ?_⟩
  · rw [Output.ofScript_of_parse_eq_error hrejected, hpayment]
  · rw [hkeys] at hshape
    exact hshape.exists_kind_of_multisig

/-- A payment to two of three keys, one of them pushed by an opcode below zero. -/
theorem multisig_payment_carries_no_operation :
    let script : Script :=
      [⟨82, none⟩, ⟨1, some [0x02]⟩, ⟨-5, none⟩, ⟨0, some []⟩, ⟨83, none⟩, ⟨174, none⟩]
    (Payment.ofScript script).isKnown = true ∧
      ∃ cause : Rejection,
        Descriptor.parse .standard (.ofLocking script) (ScriptPair.ofLocking script) =
            .error (.rejected cause) ∧
          (Payment.ofScript script = .burn → cause = .noDelimiter) ∧
          (Payment.ofScript script ≠ .burn →
            ∃ i, script[script.argumentsEnd]? = some i ∧
              cause = .opcodeOutOfRange i.opcode script.argumentsEnd) ∧
          Output.ofScript script =
            .ok { answer := { descriptor? := none, payment := Payment.ofScript script },
                  log := [{ channel := .outputs, cause }] } ∧
          ∀ required keys, Payment.ofScript script = .multisig required keys →
            ∃ kind : Operation.Kind,
              script.head?.map Instruction.opcode = some kind.opcode :=
  ⟨rfl, known_payment_carries_no_operation rfl⟩

end NameOutputs
