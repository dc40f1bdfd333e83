import NameOutputs.Proofs.Payment.Classification

/-!
# Payments behind preambles

`Payment.ofOutput` searches for a payment behind whatever pushes items and takes them away again.
What it may pass over is a `Preamble`, a script of pushes and drops that is affordable from nothing
and stops after a drop. `start?_eq_some_iff` shows that the search finds exactly the part behind a
preamble that starts with pushes up to an instruction that is other.

The proof runs the search forward. Over pushes it keeps where the payment would begin
(`startFrom?_append_of_isPush`); over an affordable script that stops after a drop it ends with the
payment right behind (`startFrom?_append_of_affordable`); a script that is not affordable spoils it
(`startFrom?_eq_none_of_not_affordable`), and so does a script without an other instruction. Every
script is cut at its first other instruction and that front at its last drop, so these cases are all
there are, and the search says which of them holds.
-/

namespace NameOutputs

/-- The script is empty or its last instruction is a drop. -/
def Script.StopsAfterDrop (script : Script) : Prop :=
  script = [] ∨ ∃ before i, script = before ++ [i] ∧ i.IsDrop

/-- A script that may stand in front of a payment. -/
structure Preamble (front : Script) : Prop where
  /-- Its instructions push or drop. -/
  isPush_or_isDrop : ∀ i ∈ front, i.IsPush ∨ i.IsDrop
  /-- No beginning of it takes away more items than it has pushed. -/
  affordable : Script.AffordableFrom 0 front
  /-- It stops after a drop, if it is there at all. -/
  stopsAfterDrop : front.StopsAfterDrop

/-- The empty script is a preamble. -/
theorem preamble_nil : Preamble [] where
  isPush_or_isDrop := by simp
  affordable := Script.affordableFrom_nil 0
  stopsAfterDrop := .inl rfl

namespace Script

/-- The front of a script that can be afforded can be afforded. -/
theorem AffordableFrom.of_append {held : Nat} {front back : Script}
    (h : AffordableFrom held (front ++ back)) : AffordableFrom held front :=
  fun before hbefore => h before (hbefore.trans (List.prefix_append front back))

/-- A script has no other instruction, or a first one. -/
theorem exists_first_other (script : Script) :
    (∀ i ∈ script, ¬ i.IsOther) ∨
      ∃ (front : Script) (i : Instruction) (rest : Script),
        script = front ++ i :: rest ∧ (∀ j ∈ front, ¬ j.IsOther) ∧ i.IsOther := by
  induction script with
  | nil => exact .inl (by simp)
  | cons i script ih =>
    by_cases hi : i.IsOther
    · exact .inr ⟨[], i, script, rfl, by simp, hi⟩
    · rcases ih with hnone | ⟨front, j, rest, rfl, hfront, hj⟩
      · exact .inl (List.forall_mem_cons.mpr ⟨hi, hnone⟩)
      · exact .inr ⟨i :: front, j, rest, rfl, List.forall_mem_cons.mpr ⟨hi, hfront⟩, hj⟩

/-- A script is cut after its last drop. -/
theorem exists_last_drop (script : Script) :
    ∃ before since : Script,
      script = before ++ since ∧ before.StopsAfterDrop ∧ ∀ i ∈ since, ¬ i.IsDrop := by
  induction script with
  | nil => exact ⟨[], [], rfl, .inl rfl, by simp⟩
  | cons i script ih =>
    obtain ⟨before, since, rfl, hbefore, hsince⟩ := ih
    rcases hbefore with rfl | ⟨front, j, rfl, hj⟩
    -- Nothing is dropped after `i`, so the cut is behind `i` or in front of it.
    · by_cases hi : i.IsDrop
      · exact ⟨[i], since, rfl, .inr ⟨[], i, rfl, hi⟩, hsince⟩
      · exact ⟨[], i :: since, rfl, .inl rfl, List.forall_mem_cons.mpr ⟨hi, hsince⟩⟩
    · exact ⟨i :: (front ++ [j]), since, rfl, .inr ⟨i :: front, j, rfl, hj⟩, hsince⟩

/-- A script that stops after a drop still does so without its first instruction, which is that drop
if nothing follows it. -/
theorem StopsAfterDrop.of_cons {i : Instruction} {script : Script}
    (h : StopsAfterDrop (i :: script)) : script.StopsAfterDrop ∧ (script = [] → i.IsDrop) := by
  rcases h with h | ⟨before, j, h, hj⟩
  · cases h
  · cases before with
    | nil =>
      obtain ⟨rfl, rfl⟩ := List.cons.inj h
      exact ⟨.inl rfl, fun _ => hj⟩
    | cons k before =>
      obtain ⟨-, rfl⟩ := List.cons.inj h
      exact ⟨.inr ⟨before, j, rfl, hj⟩, fun hnil => by simp at hnil⟩

end Script

namespace Payment

variable {held : Nat} {start : Script}

/-- A push adds an item to those that are held. -/
theorem startFrom?_cons_of_isPush {i : Instruction} (h : i.IsPush) (rest : Script) :
    startFrom? held start (i :: rest) = startFrom? (held + 1) start rest := by
  rw [startFrom?, Instruction.effect_of_isPush h]

/-- A drop takes items from those that are held, and the payment may start behind it. -/
theorem startFrom?_cons_of_isDrop {i : Instruction} (h : i.IsDrop) (rest : Script) :
    startFrom? held start (i :: rest) =
      if held < i.removes then none else startFrom? (held - i.removes) rest rest := by
  rw [startFrom?, Instruction.effect_of_isDrop h]

/-- Any other instruction ends the search for the start of the payment. -/
theorem startFrom?_cons_of_isOther {i : Instruction} (h : i.IsOther) (rest : Script) :
    startFrom? held start (i :: rest) = some start := by
  rw [startFrom?, Instruction.effect_of_isOther h]

/-- Over pushes the search keeps where the payment would begin. -/
theorem startFrom?_append_of_isPush {pushes : Script} (h : ∀ i ∈ pushes, i.IsPush)
    (rest : Script) :
    startFrom? held start (pushes ++ rest) = startFrom? (held + pushes.length) start rest := by
  induction pushes generalizing held with
  | nil => rfl
  | cons i pushes ih =>
    rw [List.forall_mem_cons] at h
    rw [List.cons_append, startFrom?_cons_of_isPush h.1, ih h.2, List.length_cons]
    congr 1
    omega

/-- Over an affordable script that ends in a drop the search comes to begin right behind it, with
what the script has left. -/
theorem startFrom?_append_of_affordable {front : Script}
    (hclass : ∀ i ∈ front, i.IsPush ∨ i.IsDrop) (hafford : Script.AffordableFrom held front)
    (hstops : front.StopsAfterDrop) (hne : front ≠ []) (rest : Script) :
    startFrom? held start (front ++ rest) =
      startFrom? (held + Script.pushed front - Script.removed front) rest rest := by
  induction front generalizing held start with
  | nil => exact absurd rfl hne
  | cons i front ih =>
    rw [List.forall_mem_cons] at hclass
    rw [List.cons_append, Script.pushed_cons, Script.removed_cons]
    rcases hclass.1 with hi | hi
    · -- The drop that the script stops after is still to come.
      have hne' : front ≠ [] := fun hnil => (hstops.of_cons.2 hnil).not_isPush hi
      rw [Script.affordableFrom_cons_of_isPush hi] at hafford
      rw [startFrom?_cons_of_isPush hi, ih hclass.2 hafford hstops.of_cons.1 hne',
        Instruction.pushes_of_isPush hi, Instruction.removes_of_isPush hi]
      congr 1
      omega
    · rw [Script.affordableFrom_cons_of_isDrop hi] at hafford
      obtain ⟨hheld, hafford⟩ := hafford
      rw [startFrom?_cons_of_isDrop hi, if_neg (by omega), Instruction.pushes_of_isDrop hi]
      by_cases hfront : front = []
      · subst hfront
        simp
      · rw [ih hclass.2 hafford hstops.of_cons.1 hfront]
        congr 1
        omega

/-- A script that is not affordable spoils the search. -/
theorem startFrom?_eq_none_of_not_affordable {front : Script}
    (hclass : ∀ i ∈ front, i.IsPush ∨ i.IsDrop) (h : ¬ Script.AffordableFrom held front)
    (rest : Script) : startFrom? held start (front ++ rest) = none := by
  induction front generalizing held start with
  | nil => exact absurd (Script.affordableFrom_nil held) h
  | cons i front ih =>
    -- What is not afforded is the first instruction, a drop, or what follows it.
    rw [List.forall_mem_cons] at hclass
    rw [List.cons_append]
    rcases hclass.1 with hi | hi
    · rw [Script.affordableFrom_cons_of_isPush hi] at h
      rw [startFrom?_cons_of_isPush hi, ih hclass.2 h]
    · rw [Script.affordableFrom_cons_of_isDrop hi] at h
      rw [startFrom?_cons_of_isDrop hi]
      split
      · rfl
      · next hheld => exact ih hclass.2 (fun hafford => h ⟨by omega, hafford⟩)

/-- A script without an other instruction holds no payment. -/
theorem startFrom?_eq_none_of_not_isOther {script : Script} (h : ∀ i ∈ script, ¬ i.IsOther) :
    startFrom? held start script = none := by
  induction script generalizing held start with
  | nil => rfl
  | cons i script ih =>
    rw [List.forall_mem_cons] at h
    rcases Instruction.isPush_or_isDrop_of_not_isOther h.1 with hi | hi
    · rw [startFrom?_cons_of_isPush hi, ih h.2]
    · rw [startFrom?_cons_of_isDrop hi, ih h.2, ite_self]

/-- The search ends with what stands behind a preamble, if that starts with pushes up to an
instruction that is other. -/
theorem start?_append {front payment : Script} (hfront : Preamble front)
    (hpayment : PushesUpToOther payment) : start? (front ++ payment) = some payment := by
  obtain ⟨pushes, i, rest, rfl, hpushes, hi⟩ := hpayment
  unfold start?
  by_cases hne : front = []
  · subst hne
    rw [List.nil_append, startFrom?_append_of_isPush hpushes, startFrom?_cons_of_isOther hi]
  · rw [startFrom?_append_of_affordable hfront.isPush_or_isDrop hfront.affordable
      hfront.stopsAfterDrop hne, startFrom?_append_of_isPush hpushes,
      startFrom?_cons_of_isOther hi]

/-- What is behind a preamble and starts with pushes up to an instruction that is other begins at
one place only. -/
theorem eq_of_append_eq {front back front' back' : Script} (hfront : Preamble front)
    (hfront' : Preamble front') (hback : PushesUpToOther back) (hback' : PushesUpToOther back')
    (h : front ++ back = front' ++ back') : front = front' ∧ back = back' := by
  have hstart := start?_append hfront hback
  rw [h, start?_append hfront' hback', Option.some.injEq] at hstart
  subst hstart
  exact ⟨List.append_cancel_right h, rfl⟩

/-- Up to its first instruction that is other, an affordable script is a preamble, which ends in the
last drop, and then pushes. -/
theorem preamble_of_affordable {before since : Script} {i : Instruction}
    (hfront : ∀ j ∈ before ++ since, ¬ j.IsOther)
    (hafford : Script.AffordableFrom 0 (before ++ since)) (hstops : before.StopsAfterDrop)
    (hsince : ∀ j ∈ since, ¬ j.IsDrop) (hi : i.IsOther) (rest : Script) :
    Preamble before ∧ PushesUpToOther (since ++ i :: rest) := by
  have hclass : ∀ j ∈ before ++ since, j.IsPush ∨ j.IsDrop := fun j hj =>
    Instruction.isPush_or_isDrop_of_not_isOther (hfront j hj)
  rw [List.forall_mem_append] at hclass
  have hpushes : ∀ j ∈ since, j.IsPush := fun j hj => (hclass.2 j hj).resolve_right (hsince j hj)
  exact ⟨⟨hclass.1, hafford.of_append, hstops⟩, ⟨since, i, rest, rfl, hpushes, hi⟩⟩

/-- An unaffordable front without an other instruction spoils the search. -/
theorem start?_eq_none_of_not_affordable {front : Script} (hfront : ∀ j ∈ front, ¬ j.IsOther)
    (hafford : ¬ Script.AffordableFrom 0 front) (rest : Script) :
    start? (front ++ rest) = none := by
  have hclass : ∀ j ∈ front, j.IsPush ∨ j.IsDrop := fun j hj =>
    Instruction.isPush_or_isDrop_of_not_isOther (hfront j hj)
  exact startFrom?_eq_none_of_not_affordable hclass hafford rest

/-- Every script is one that the search is spoilt by or ends in, and what it ends with is what
stands behind a preamble. -/
theorem start?_eq_some_iff {script payment : Script} :
    start? script = some payment ↔
      ∃ front, script = front ++ payment ∧ Preamble front ∧ PushesUpToOther payment := by
  constructor
  · intro h
    rcases Script.exists_first_other script with hnone | ⟨front, i, rest, rfl, hfront, hi⟩
    · rw [start?, startFrom?_eq_none_of_not_isOther hnone] at h
      cases h
    by_cases hafford : Script.AffordableFrom 0 front
    -- The search has come to its first other instruction, and begins behind the last drop.
    · obtain ⟨before, since, rfl, hstops, hsince⟩ := Script.exists_last_drop front
      obtain ⟨hbefore, hsince⟩ :=
        preamble_of_affordable hfront hafford hstops hsince hi rest
      rw [List.append_assoc, start?_append hbefore hsince, Option.some.injEq] at h
      subst h
      exact ⟨before, List.append_assoc .., hbefore, hsince⟩
    · rw [start?_eq_none_of_not_affordable hfront hafford] at h
      cases h
  · rintro ⟨front, rfl, hfront, hpayment⟩
    exact start?_append hfront hpayment

/-- Behind a preamble, what starts with pushes up to an other instruction is the payment. -/
theorem ofOutput_append {front payment : Script} (hfront : Preamble front)
    (hpayment : PushesUpToOther payment) : ofOutput (front ++ payment) = ofScript payment := by
  rw [ofOutput, start?_append hfront hpayment]

/-- An output without a start of the payment is unknown as a whole. -/
theorem ofOutput_of_start?_eq_none {script : Script} (h : start? script = none) :
    ofOutput script = unknown script := by
  rw [ofOutput, h]

/-- A payment is found in a script when what stands behind some preamble is that payment. -/
theorem ofOutput_eq_iff_of_isKnown {script : Script} {payment : Payment}
    (h : payment.isKnown = true) :
    ofOutput script = payment ↔
      ∃ front back, script = front ++ back ∧ Preamble front ∧ ofScript back = payment := by
  constructor
  · intro hfound
    cases hstart : start? script with
    | none =>
      rw [ofOutput_of_start?_eq_none hstart] at hfound
      subst hfound
      cases h
    | some back =>
      obtain ⟨front, rfl, hfront, hback⟩ := start?_eq_some_iff.mp hstart
      rw [ofOutput_append hfront hback] at hfound
      exact ⟨front, back, rfl, hfront, hfound⟩
  · rintro ⟨front, back, rfl, hfront, rfl⟩
    exact ofOutput_append hfront (pushesUpToOther_of_isKnown h)

/-- The payment of a script is of a known kind exactly when the script is a preamble and then a
payment of that kind on its own, which it is in one way at most; in particular a known payment on
its own is found as it is. Otherwise the payment is unknown: as the whole script, if the script has
no other instruction or a drop before the first one is not afforded, and else as what follows the
last drop before the first other instruction. -/
theorem ofOutput_known_iff_behind_preamble (script : Script) :
    (∀ payment : Payment, payment.isKnown = true →
      (ofOutput script = payment ↔
        ∃ front back, script = front ++ back ∧ Preamble front ∧ ofScript back = payment)) ∧
      (∀ front back front' back' : Script, script = front ++ back → script = front' ++ back' →
        Preamble front → Preamble front' → (ofScript back).isKnown = true →
        (ofScript back').isKnown = true → front = front' ∧ back = back') ∧
      ((ofScript script).isKnown = true → ofOutput script = ofScript script) ∧
      ((¬ ∃ front back, script = front ++ back ∧ Preamble front ∧
          (ofScript back).isKnown = true) →
        (∃ part, ofOutput script = unknown part) ∧
          ((∀ i ∈ script, ¬ i.IsOther) → ofOutput script = unknown script) ∧
          ∀ (front : Script) (i : Instruction) (rest : Script), script = front ++ i :: rest →
            (∀ j ∈ front, ¬ j.IsOther) → i.IsOther →
            (¬ Script.AffordableFrom 0 front → ofOutput script = unknown script) ∧
              (Script.AffordableFrom 0 front → ∀ before since : Script, front = before ++ since →
                before.StopsAfterDrop → (∀ j ∈ since, ¬ j.IsDrop) →
                ofOutput script = unknown (since ++ i :: rest))) := by
  refine ⟨fun payment => ofOutput_eq_iff_of_isKnown, ?_, ?_, fun hnone => ⟨?_, ?_, ?_⟩⟩
  · rintro front back front' back' rfl hscript hfront hfront' hback hback'
    exact eq_of_append_eq hfront hfront' (pushesUpToOther_of_isKnown hback)
      (pushesUpToOther_of_isKnown hback') hscript
  · intro hknown
    exact ofOutput_append preamble_nil (pushesUpToOther_of_isKnown hknown)
  · cases hpayment : ofOutput script with
    | unknown part => exact ⟨part, rfl⟩
    | _ =>
      obtain ⟨front, back, hscript, hfront, hback⟩ := (ofOutput_eq_iff_of_isKnown rfl).mp hpayment
      exact absurd ⟨front, back, hscript, hfront, by rw [hback]; rfl⟩ hnone
  · intro hother
    exact ofOutput_of_start?_eq_none (startFrom?_eq_none_of_not_isOther hother)
  · rintro front i rest rfl hfront hi
    refine ⟨fun hafford => ?_, ?_⟩
    · exact ofOutput_of_start?_eq_none (start?_eq_none_of_not_affordable hfront hafford _)
    · rintro hafford before since rfl hstops hsince
      obtain ⟨hbefore, hback⟩ :=
        preamble_of_affordable hfront hafford hstops hsince hi rest
      rw [List.append_assoc] at hnone ⊢
      rw [ofOutput_append hbefore hback]
      exact ofScript_of_not_isKnown fun hknown => hnone ⟨before, _, rfl, hbefore, hknown⟩

end Payment

end NameOutputs
