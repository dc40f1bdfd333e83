import NameOutputs.Output
import NameOutputs.Proofs.Grammar
import NameOutputs.Proofs.Payment.Preamble

/-!
# Where the payment begins

A script that carries a name operation is read twice: by its grammar for the operation, and by the
balance of pushes and drops for the payment. `Layout.Pays` relates the payment that is found to the
layout of the operation, and `output_of_operation` shows that an output pays so.

The head and the arguments push one item each and the delimiters are drops, so the search passes
over all three (`Layout.WellFormed.preamble`), or is spoilt inside the delimiters. What is left of
the operation when it comes to the payment is only the number of items held, and that does not move
the beginning of the payment back: from there on the search begins where it is or behind a later
drop (`startFrom?_eq_some`).
-/

namespace NameOutputs

/-- The payment found in a script that carries an operation with the layout. -/
structure Layout.Pays (layout : Layout) (payment : Payment) : Prop where
  /-- Delimiters that take away more than the head and the arguments push spoil the script. -/
  of_overdrawn :
    (∃ front : Script, front <+: layout.delimiters ∧
      layout.arguments.length + 1 < front.removed) →
    payment = .unknown layout.script
  /-- Behind delimiters that are afforded, a known payment is found as it is on its own. -/
  of_isKnown :
    (∀ front : Script, front <+: layout.delimiters →
      front.removed ≤ layout.arguments.length + 1) →
    (Payment.ofScript layout.payment).isKnown = true →
    payment = Payment.ofScript layout.payment
  /-- Any other known payment stands behind a drop that belongs to the payment part. -/
  of_not_isKnown :
    (∀ front : Script, front <+: layout.delimiters →
      front.removed ≤ layout.arguments.length + 1) →
    ¬ (Payment.ofScript layout.payment).isKnown = true → payment.isKnown = true →
    ∃ (before : Script) (i : Instruction) (rest : Script),
      layout.payment = before ++ i :: rest ∧ i.IsDrop ∧ payment = Payment.ofScript rest

namespace Script

/-- Pushes in front add the items that they push to those held. -/
theorem affordableFrom_append_of_isPush {held : Nat} {pushes script : Script}
    (h : ∀ i ∈ pushes, i.IsPush) :
    AffordableFrom held (pushes ++ script) ↔ AffordableFrom (held + pushes.length) script := by
  induction pushes generalizing held with
  | nil => rfl
  | cons i pushes ih =>
    rw [List.forall_mem_cons] at h
    rw [List.cons_append, affordableFrom_cons_of_isPush h.1, ih h.2, List.length_cons,
      Nat.add_right_comm, Nat.add_assoc]

/-- Drops are afforded when no beginning of them takes away more than is held. -/
theorem affordableFrom_iff_of_isDrop {held : Nat} {drops : Script} (h : ∀ i ∈ drops, i.IsDrop) :
    AffordableFrom held drops ↔ ∀ front : Script, front <+: drops → removed front ≤ held := by
  refine forall₂_congr fun front hfront => ?_
  rw [pushed_of_isDrop fun i hi => h i (hfront.subset hi), Nat.add_zero]

end Script

namespace Layout

/-- All that stands before the payment. -/
def operationPart (layout : Layout) : Script :=
  (layout.head :: layout.arguments) ++ layout.delimiters

/-- A layout is what tells the operation and then the payment. -/
theorem script_eq (layout : Layout) : layout.script = layout.operationPart ++ layout.payment := by
  simp [script, operationPart]

namespace WellFormed

variable {layout : Layout}

/-- The head and the arguments of a well-formed layout are pushes. -/
theorem isPush (h : layout.WellFormed) : ∀ i ∈ layout.head :: layout.arguments, i.IsPush := by
  rw [List.forall_mem_cons]
  constructor
  · obtain ⟨kind, hkind, -⟩ := h.kind
    rw [Instruction.isPush_iff, hkind]
    cases kind <;> decide
  · exact fun i hi => .inl (h.arguments i hi).2

/-- The operation is made of pushes and drops. -/
theorem isPush_or_isDrop (h : layout.WellFormed) :
    ∀ i ∈ layout.operationPart, i.IsPush ∨ i.IsDrop := by
  unfold operationPart
  rw [List.forall_mem_append]
  exact ⟨fun i hi => .inl (h.isPush i hi), fun i hi => .inr (h.delimiters i hi)⟩

/-- The operation stops after its last delimiter. -/
theorem stopsAfterDrop (h : layout.WellFormed) : layout.operationPart.StopsAfterDrop := by
  obtain ⟨before, i, hlast⟩ :=
    (List.eq_nil_or_concat' layout.delimiters).resolve_left h.delimiters_ne_nil
  refine .inr ⟨layout.head :: layout.arguments ++ before, i, ?_, ?_⟩
  · rw [operationPart, hlast, List.append_assoc]
  · exact h.delimiters i (by rw [hlast]; simp)

/-- The operation is affordable when the head and the arguments push what the delimiters take. -/
theorem affordableFrom_iff (h : layout.WellFormed) :
    Script.AffordableFrom 0 layout.operationPart ↔
      ∀ front : Script, front <+: layout.delimiters →
        front.removed ≤ layout.arguments.length + 1 := by
  unfold operationPart
  rw [Script.affordableFrom_append_of_isPush h.isPush,
    Script.affordableFrom_iff_of_isDrop h.delimiters, List.length_cons, Nat.zero_add]

/-- An operation that is affordable may stand in front of a payment. -/
theorem preamble (h : layout.WellFormed)
    (hafford : Script.AffordableFrom 0 layout.operationPart) : Preamble layout.operationPart :=
  ⟨h.isPush_or_isDrop, hafford, h.stopsAfterDrop⟩

end WellFormed

end Layout

namespace Payment

/-- What the search finds begins where it was, or behind a drop that it has yet to pass. -/
theorem startFrom?_eq_some {held : Nat} {start script found : Script}
    (h : startFrom? held start script = some found) :
    found = start ∨ ∃ before i, script = before ++ i :: found ∧ i.IsDrop := by
  induction script generalizing held start with
  | nil => cases h
  | cons i script ih =>
    by_cases hother : i.IsOther
    · rw [startFrom?_cons_of_isOther hother] at h
      exact .inl (Option.some.inj h).symm
    rcases Instruction.isPush_or_isDrop_of_not_isOther hother with hi | hi
    · rw [startFrom?_cons_of_isPush hi] at h
      rcases ih h with hfound | ⟨before, j, rfl, hj⟩
      · exact .inl hfound
      · exact .inr ⟨i :: before, j, rfl, hj⟩
    · rw [startFrom?_cons_of_isDrop hi] at h
      split at h
      · cases h
      · rcases ih h with rfl | ⟨before, j, rfl, hj⟩
        · exact .inr ⟨[], i, rfl, hi⟩
        · exact .inr ⟨i :: before, j, rfl, hj⟩

/-- The payment that is found in a script with an operation. -/
theorem pays_ofOutput {layout : Layout} (h : layout.WellFormed) :
    layout.Pays (ofOutput layout.script) where
  of_overdrawn := by
    rintro ⟨front, hfront, hlt⟩
    have hafford : ¬ Script.AffordableFrom 0 layout.operationPart := fun hafford => by
      have := h.affordableFrom_iff.mp hafford front hfront
      omega
    apply ofOutput_of_start?_eq_none
    rw [layout.script_eq]
    exact startFrom?_eq_none_of_not_affordable h.isPush_or_isDrop hafford layout.payment
  of_isKnown := by
    intro hafford hknown
    rw [layout.script_eq]
    exact ofOutput_append (h.preamble (h.affordableFrom_iff.mpr hafford))
      (pushesUpToOther_of_isKnown hknown)
  of_not_isKnown := by
    intro hafford hunknown hknown
    -- When the search comes to the payment, it begins there and holds what is left.
    have hstart : start? layout.script = startFrom?
        (0 + layout.operationPart.pushed - layout.operationPart.removed)
        layout.payment layout.payment := by
      rw [start?, layout.script_eq]
      exact startFrom?_append_of_affordable h.isPush_or_isDrop (h.affordableFrom_iff.mpr hafford)
        h.stopsAfterDrop (by simp [Layout.operationPart]) layout.payment
    cases hfound : start? layout.script with
    | none =>
      rw [ofOutput_of_start?_eq_none hfound] at hknown
      cases hknown
    | some found =>
      have hpays : ofOutput layout.script = ofScript found := by rw [ofOutput, hfound]
      rw [hfound] at hstart
      rcases startFrom?_eq_some hstart.symm with rfl | ⟨before, i, hsplit, hi⟩
      · -- The payment part is no known payment on its own.
        rw [hpays] at hknown
        exact absurd hknown hunknown
      · exact ⟨before, i, found, hsplit, hi, hpays⟩

end Payment

namespace Descriptor

variable {script : Script}

/-- A search finds the descriptor of a script that is accepted, and logs nothing. -/
theorem search_of_parse {d : Descriptor ScriptPair} (channel : Channel)
    (h : parse .standard (.ofLocking script) (.ofLocking script) = .ok d) :
    search channel script = .ok { answer := some d, log := [] } := by
  unfold search
  simp only [h]

/-- A search finds nothing in a script that is rejected, and logs the cause. -/
theorem search_of_parse_eq_error {cause : Rejection} (channel : Channel)
    (h : parse .standard (.ofLocking script) (ScriptPair.ofLocking script) =
      .error (.rejected cause)) :
    search channel script = .ok { answer := none, log := [{ channel, cause }] } := by
  unfold search
  simp only [h]

end Descriptor

/-- An accepted script is read without a record in the log. -/
theorem Output.ofScript_of_parse {script : Script} {d : Descriptor ScriptPair}
    (h : Descriptor.parse .standard (.ofLocking script) (.ofLocking script) = .ok d) :
    Output.ofScript script =
      .ok { answer := { descriptor? := some d, payment := Payment.ofOutput script },
            log := [] } := by
  rw [Output.ofScript, Descriptor.search_of_parse .outputs h]
  rfl

/-- A rejected script is read with the cause on record, and its payment is found all the same. -/
theorem Output.ofScript_of_parse_eq_error {script : Script} {cause : Rejection}
    (h : Descriptor.parse .standard (.ofLocking script) (ScriptPair.ofLocking script) =
      .error (.rejected cause)) :
    Output.ofScript script =
      .ok { answer := { descriptor? := none, payment := Payment.ofOutput script },
            log := [{ channel := .outputs, cause }] } := by
  rw [Output.ofScript, Descriptor.search_of_parse_eq_error .outputs h]
  rfl

/-- The output of a script that is accepted holds the operation, and the payment stands in the
payment part of the layout: the payment part itself if it is a known payment, unless the delimiters
take away more than there is, and else at most what follows a drop inside it. -/
theorem output_of_operation {script : Script} {d : Descriptor ScriptPair}
    (h : Descriptor.parse .standard (.ofLocking script) (.ofLocking script) = .ok d) :
    ∃ layout : Layout, layout.script = script ∧ layout.WellFormed ∧
      ∃ payment : Payment, layout.Pays payment ∧
        Output.ofScript script =
          .ok { answer := { descriptor? := some d, payment }, log := [] } := by
  obtain ⟨layout, hscript, hlayout, -⟩ :=
    Operation.parse_known_eq_ok_iff.mp (Descriptor.parse_eq_ok_iff.mp h).1
  obtain rfl : layout.script = script := hscript
  exact ⟨layout, rfl, hlayout, Payment.ofOutput layout.script, Payment.pays_ofOutput hlayout,
    Output.ofScript_of_parse h⟩

/-- A script whose payment part is known only behind a drop of its own. -/
theorem output_of_new_operation :
    let script : Script :=
      [⟨81, none⟩, ⟨1, some [0xFF]⟩, ⟨109, none⟩, ⟨81, none⟩, ⟨117, none⟩, ⟨106, none⟩]
    let d : Descriptor ScriptPair :=
      ⟨.new [.ofByte 0xFF], .standard, .ofLocking script⟩
    Descriptor.parse .standard (.ofLocking script) (.ofLocking script) = .ok d ∧
      ∃ layout : Layout, layout.script = script ∧ layout.WellFormed ∧
        ∃ payment : Payment, layout.Pays payment ∧
          Output.ofScript script =
            .ok { answer := { descriptor? := some d, payment }, log := [] } :=
  ⟨rfl, output_of_operation rfl⟩

end NameOutputs
