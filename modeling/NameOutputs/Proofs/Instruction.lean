import Mathlib.Algebra.Ring.Nat
import NameOutputs.Payment.Balance

/-!
# Classes of instructions

By its opcode an instruction pushes one item, drops some, or does neither. The classes are stated
here over the opcodes alone, beside the functions that sort instructions into them: arguments of
name operations are pushes, delimiters are the drops, and `effect` tells the three classes apart.

A script is counted by the items that its instructions push and by those that they remove. It is
affordable from some held items when no beginning of it removes more items than are held or have
been pushed by then.
-/

namespace NameOutputs

namespace Instruction

/-- The instruction pushes one item: the data beside it, or a small number. -/
def IsPush (i : Instruction) : Prop :=
  i.opcode ≤ Opcode.pushData4 ∨ i.opcode = Opcode.oneNegate ∨
    (Opcode.one ≤ i.opcode ∧ i.opcode ≤ Opcode.sixteen)

/-- The instruction takes items away, which may be none. -/
def IsDrop (i : Instruction) : Prop :=
  i.opcode = Opcode.nop ∨ i.opcode = Opcode.drop ∨ i.opcode = Opcode.twoDrop

/-- The instruction neither pushes nor drops. -/
def IsOther (i : Instruction) : Prop :=
  ¬ i.IsPush ∧ ¬ i.IsDrop

instance (i : Instruction) : Decidable i.IsPush :=
  inferInstanceAs (Decidable (_ ∨ _ ∨ (_ ∧ _)))

instance (i : Instruction) : Decidable i.IsDrop :=
  inferInstanceAs (Decidable (_ ∨ _ ∨ _))

instance (i : Instruction) : Decidable i.IsOther :=
  inferInstanceAs (Decidable (¬ _ ∧ ¬ _))

/-- The opcodes of pushes as numbers. -/
theorem isPush_iff (i : Instruction) :
    i.IsPush ↔ i.opcode ≤ 78 ∨ i.opcode = 79 ∨ (81 ≤ i.opcode ∧ i.opcode ≤ 96) :=
  Iff.rfl

/-- The opcodes of drops as numbers. -/
theorem isDrop_iff (i : Instruction) :
    i.IsDrop ↔ i.opcode = 97 ∨ i.opcode = 117 ∨ i.opcode = 109 :=
  Iff.rfl

/-- The items that the instruction pushes. -/
def pushes (i : Instruction) : Nat :=
  if i.IsPush then 1 else 0

/-- The items that the instruction takes away. -/
def removes (i : Instruction) : Nat :=
  if i.opcode = Opcode.drop then 1 else if i.opcode = Opcode.twoDrop then 2 else 0

/-- An instruction that drops does not push. -/
theorem IsDrop.not_isPush {i : Instruction} (h : i.IsDrop) : ¬ i.IsPush := by
  rw [isDrop_iff] at h
  rw [isPush_iff]
  omega

/-- An instruction that is no other one pushes or drops. -/
theorem isPush_or_isDrop_of_not_isOther {i : Instruction} (h : ¬ i.IsOther) :
    i.IsPush ∨ i.IsDrop := by
  unfold IsOther at h
  by_cases hp : i.IsPush
  · exact .inl hp
  · exact .inr (Decidable.not_not.mp fun hd => h ⟨hp, hd⟩)

/-- A push pushes one item. -/
@[simp] theorem pushes_of_isPush {i : Instruction} (h : i.IsPush) : i.pushes = 1 := if_pos h

/-- A drop pushes no item. -/
@[simp] theorem pushes_of_isDrop {i : Instruction} (h : i.IsDrop) : i.pushes = 0 :=
  if_neg h.not_isPush

/-- A push removes no item. -/
@[simp] theorem removes_of_isPush {i : Instruction} (h : i.IsPush) : i.removes = 0 := by
  have hdrop : i.opcode ≠ 117 := fun hi => IsDrop.not_isPush (.inr (.inl hi)) h
  have htwo : i.opcode ≠ 109 := fun hi => IsDrop.not_isPush (.inr (.inr hi)) h
  unfold removes
  rw [if_neg hdrop, if_neg htwo]

/-- The drops are the instructions in the table of delimiters, with the items that each removes. -/
theorem dropCount?_of_isDrop {i : Instruction} (h : i.IsDrop) : i.dropCount? = some i.removes := by
  unfold dropCount? removes
  rcases h with h | h | h <;> rw [h] <;> rfl

/-- An instruction that is no drop is not in the table of delimiters. -/
theorem dropCount?_of_not_isDrop {i : Instruction} (h : ¬ i.IsDrop) : i.dropCount? = none := by
  unfold IsDrop at h
  unfold dropCount?
  rw [List.lookup_eq_none_iff]
  simp only [delimiters, List.forall_mem_cons, List.not_mem_nil, false_implies, implies_true,
    and_true, bne_iff_ne, ne_eq]
  exact ⟨fun hi => h (.inl hi), fun hi => h (.inr (.inl hi)), fun hi => h (.inr (.inr hi))⟩

/-- The delimiters are the drops. -/
theorem isDelimiter_iff (i : Instruction) : i.isDelimiter = true ↔ i.IsDrop := by
  unfold isDelimiter
  by_cases h : i.IsDrop
  · rw [dropCount?_of_isDrop h]
    exact iff_of_true rfl h
  · rw [dropCount?_of_not_isDrop h]
    exact iff_of_false (by simp) h

/-- The arguments are the pushes of data with an opcode from zero up. -/
theorem isArgument_iff (i : Instruction) :
    i.isArgument = true ↔ 0 ≤ i.opcode ∧ i.opcode ≤ Opcode.pushData4 := by
  unfold isArgument
  rw [Bool.and_eq_true, decide_eq_true_eq, decide_eq_true_eq]

/-- The opcodes of delimiters lie above those of arguments. -/
theorem IsDrop.isArgument_eq_false {i : Instruction} (h : i.IsDrop) : i.isArgument = false := by
  rw [isDrop_iff] at h
  rw [Bool.eq_false_iff, ne_eq, isArgument_iff]
  show ¬ (0 ≤ i.opcode ∧ i.opcode ≤ 78)
  omega

/-- The test for a push, as it stands in `effect`. -/
theorem pushesData_or_pushesNumber_iff (i : Instruction) :
    (i.pushesData || Opcode.pushesNumber i.opcode) = true ↔ i.IsPush := by
  simp only [pushesData, Opcode.pushesNumber, Bool.or_eq_true, Bool.and_eq_true,
    decide_eq_true_eq]
  rfl

/-- The effect of a push is to push. -/
theorem effect_of_isPush {i : Instruction} (h : i.IsPush) : i.effect = .push := by
  unfold effect
  rw [if_pos ((pushesData_or_pushesNumber_iff i).mpr h)]

/-- The effect of a drop is to drop as many items as it removes. -/
theorem effect_of_isDrop {i : Instruction} (h : i.IsDrop) : i.effect = .drop i.removes := by
  unfold effect
  rw [if_neg (mt (pushesData_or_pushesNumber_iff i).mp h.not_isPush), dropCount?_of_isDrop h]

/-- The effect of any other instruction is to end the preamble. -/
theorem effect_of_isOther {i : Instruction} (h : i.IsOther) : i.effect = .other := by
  unfold effect
  rw [if_neg (mt (pushesData_or_pushesNumber_iff i).mp h.1), dropCount?_of_not_isDrop h.2]

end Instruction

namespace Script

/-- The items that the instructions of the script push. -/
def pushed (script : Script) : Nat :=
  (script.map Instruction.pushes).sum

/-- The items that the instructions of the script take away. -/
def removed (script : Script) : Nat :=
  (script.map Instruction.removes).sum

/-- No beginning of the script takes away more items than were held or it has pushed. -/
def AffordableFrom (held : Nat) (script : Script) : Prop :=
  ∀ front : Script, front <+: script → removed front ≤ held + pushed front

/-- The empty script pushes nothing. -/
@[simp] theorem pushed_nil : pushed [] = 0 := rfl

/-- The empty script removes nothing. -/
@[simp] theorem removed_nil : removed [] = 0 := rfl

/-- A script pushes what its first instruction pushes and what the rest does. -/
@[simp] theorem pushed_cons (i : Instruction) (script : Script) :
    pushed (i :: script) = i.pushes + pushed script := by
  simp [pushed]

/-- A script removes what its first instruction removes and what the rest does. -/
@[simp] theorem removed_cons (i : Instruction) (script : Script) :
    removed (i :: script) = i.removes + removed script := by
  simp [removed]

/-- Drops push nothing. -/
theorem pushed_of_isDrop {script : Script} (h : ∀ i ∈ script, i.IsDrop) : pushed script = 0 := by
  induction script with
  | nil => rfl
  | cons i script ih =>
    rw [List.forall_mem_cons] at h
    rw [pushed_cons, Instruction.pushes_of_isDrop h.1, ih h.2]

/-- The empty script can be afforded with any number of items. -/
theorem affordableFrom_nil (held : Nat) : AffordableFrom held [] := by
  intro front hfront
  rw [List.prefix_nil.mp hfront]
  exact Nat.zero_le _

/-- A push can always be afforded, and what follows it can use the item. -/
theorem affordableFrom_cons_of_isPush {held : Nat} {i : Instruction} {script : Script}
    (h : i.IsPush) : AffordableFrom held (i :: script) ↔ AffordableFrom (held + 1) script := by
  constructor
  · intro ha front hfront
    have := ha (i :: front) (List.cons_prefix_cons.mpr ⟨rfl, hfront⟩)
    rw [removed_cons, pushed_cons, Instruction.removes_of_isPush h,
      Instruction.pushes_of_isPush h] at this
    omega
  · intro ha front hfront
    rcases List.prefix_cons_iff.mp hfront with rfl | ⟨back, rfl, hback⟩
    · exact Nat.zero_le _
    · have := ha back hback
      rw [removed_cons, pushed_cons, Instruction.removes_of_isPush h,
        Instruction.pushes_of_isPush h]
      omega

/-- A drop is afforded when its items are held, and what follows it has to do without them. -/
theorem affordableFrom_cons_of_isDrop {held : Nat} {i : Instruction} {script : Script}
    (h : i.IsDrop) :
    AffordableFrom held (i :: script) ↔
      i.removes ≤ held ∧ AffordableFrom (held - i.removes) script := by
  constructor
  · intro ha
    have hi := ha [i] (List.cons_prefix_cons.mpr ⟨rfl, List.nil_prefix⟩)
    simp only [removed_cons, pushed_cons, Instruction.pushes_of_isDrop h, removed_nil,
      pushed_nil] at hi
    refine ⟨by omega, fun front hfront => ?_⟩
    have := ha (i :: front) (List.cons_prefix_cons.mpr ⟨rfl, hfront⟩)
    rw [removed_cons, pushed_cons, Instruction.pushes_of_isDrop h] at this
    omega
  · rintro ⟨hi, ha⟩ front hfront
    -- The drop is part of each beginning that is not empty.
    rcases List.prefix_cons_iff.mp hfront with rfl | ⟨back, rfl, hback⟩
    · exact Nat.zero_le _
    · have := ha back hback
      rw [removed_cons, pushed_cons, Instruction.pushes_of_isDrop h]
      omega

end Script

end NameOutputs
