import Mathlib.Data.Set.Card
import NameOutputs.Proofs.Session.Comparison
import NameOutputs.Proofs.Session.Frozen
import NameOutputs.Session.Hash

/-!
# Equality, hashes and counts agree

A set counts values rightly only if equality is an equivalence and equal values have equal hashes,
and both have to hold while pairs are changed in place. `consistent_run` shows it of every session
that steps lead to. It rests on one fact: equality and hashes depend on nothing but what comparisons
see of a value (`Session.observe`, `Session.hash_eq_ofObserved`). So a set has one member for each
observation, however hashes are made (`Session.map_observe_collect`), and there are as many
observations as there are classes of equal values (`Session.encard_classes`).

An assignment changes what comparisons see of the pair that is assigned to, and of no other value. A
descriptor whose source is the pair is no exception, since comparisons do not see its source.
-/

namespace NameOutputs

/-- What a list is without its repetitions has none. -/
theorem nodup_eraseDups {α : Type} [DecidableEq α] : ∀ l : List α, l.eraseDups.Nodup
  | [] => List.nodup_nil
  | a :: rest => by
    rw [List.eraseDups_cons, List.nodup_cons]
    have hrest : a ∉ (rest.filter fun b => !b == a).eraseDups := by
      simp [List.mem_eraseDups]
    exact ⟨hrest, nodup_eraseDups _⟩
termination_by l => l.length
decreasing_by exact Nat.lt_succ_of_le (List.length_filter_le _ _)

/-- Without its repetitions a list has as many elements as the set of its elements. -/
theorem length_eraseDups {α : Type} [DecidableEq α] (l : List α) :
    l.eraseDups.length = l.toFinset.card := by
  rw [← List.toFinset_card_of_nodup (nodup_eraseDups l)]
  congr 1
  ext a
  rw [List.mem_toFinset, List.mem_toFinset, List.mem_eraseDups]

/-- Pairs are the same exactly if both of their scripts are. -/
theorem ScriptPair.eq_iff_scripts {pair other : ScriptPair} :
    pair = other ↔ pair.unlocking = other.unlocking ∧ pair.locking = other.locking := by
  cases pair
  cases other
  rw [ScriptPair.mk.injEq]

/-- The hash of what comparisons see of a value, or of none. -/
def Hashing.ofObserved {Code : Type} (hashing : Hashing Code) : Option Observed → Code
  | some (.pair pair) => hashing.scripts (pair.unlocking, pair.locking)
  | some (.operation operation) => hashing.operation (operation.opcode, operation.args)
  | none => hashing.nothing

namespace Session

variable {session : Session}

/-- Comparisons find the values equal. Each of them may be none. -/
def Alike (session : Session) (a b : Option Value) : Prop :=
  a.map session.observe = b.map session.observe

/-- The classes of equal values that some of the slots has its value in. -/
def classes (session : Session) (slots : List String) : Set (Set (Option Value)) :=
  {c | ∃ slot ∈ slots, ∃ value, session.slots slot = some value ∧
    c = {other | session.Alike (some value) other}}

/-- Equality, hashes and counts of the values of the session agree. -/
structure Consistent (session : Session) : Prop where
  /-- Equality is reflexive, symmetric and transitive. -/
  equivalence : Equivalence session.Alike
  /-- A step that compares a slot to another or to no value answers whether they are equal, and
  always the opposite to whether they are unequal. -/
  compared : ∀ slot other value, session.slots slot = some value →
    (∀ name ∈ other, ∃ value', session.slots name = some value') →
    ∃ same, session.step (.compare slot other) = .ok (.comparison same (!same), session) ∧
      (same = true ↔ session.Alike (some value) (other.bind session.slots))
  /-- Pairs, descriptors and none are never equal to one another. -/
  apart : ∀ key d, ¬ session.Alike (some (.pair key)) (some (.descriptor d)) ∧
    ¬ session.Alike (some (.pair key)) none ∧ ¬ session.Alike (some (.descriptor d)) none
  /-- Pairs are equal exactly if both of their scripts are. -/
  pairs : ∀ key other, session.Alike (some (.pair key)) (some (.pair other)) ↔
    (session.store.read key).unlocking = (session.store.read other).unlocking ∧
      (session.store.read key).locking = (session.store.read other).locking
  /-- Pairs are not equal where one has an instruction without data and the other has one with empty
  data in its place. -/
  missing : ∀ key other half (n : Nat) (i i' : Instruction),
    ((session.store.read key).half half)[n]? = some i →
    ((session.store.read other).half half)[n]? = some i' →
    i.data = none → i'.data = some [] →
    ¬ session.Alike (some (.pair key)) (some (.pair other))
  /-- Descriptors are equal exactly if their opcodes and their arguments are, whatever their
  encodings and their sources. -/
  descriptors : ∀ d d', session.Alike (some (.descriptor d)) (some (.descriptor d')) ↔
    d.operation.opcode = d'.operation.opcode ∧ d.operation.args = d'.operation.args
  /-- Equal values have equal hashes. -/
  hashed : ∀ a b, session.Alike a b →
    ∀ (Code : Type) (hashing : Hashing Code), session.hash hashing a = session.hash hashing b
  /-- A step that counts the values of slots answers how many classes of equal values there are
  among them. A set has as many members, and neither the order of the slots nor their repetition
  makes a difference. -/
  counted : ∀ slots : List String, (∀ slot ∈ slots, ∃ value, session.slots slot = some value) →
    ∃ count : Nat, session.step (.distinct slots) = .ok (.integer count, session) ∧
      (session.classes slots).encard = count ∧
      (∀ (Code : Type) [DecidableEq Code] (hashing : Hashing Code),
        (session.collect hashing (slots.filterMap session.slots)).length = count) ∧
      ∀ other : List String, (∀ slot, slot ∈ other ↔ slot ∈ slots) →
        session.step (.distinct other) = .ok (.integer count, session)
  /-- A step that assigns through a slot changes what comparisons see of the pair in the slot only.
  Other values are equal after it exactly if they were before. -/
  assigned : ∀ slot half script,
    let next := session.after (.assign slot half script)
    (∀ value, session.slots slot ≠ some value → next.observe value = session.observe value) ∧
      ∀ a b, (∀ value ∈ a, session.slots slot ≠ some value) →
        (∀ value ∈ b, session.slots slot ≠ some value) →
        (next.Alike a b ↔ session.Alike a b)
  /-- Over any steps, what comparisons see of a value that a slot holds changes only if something is
  assigned to the pair that it is. -/
  kept : ∀ slot value steps, session.slots slot = some value →
    (∀ key ∈ value.key?, session.assignments key steps = []) →
    (session.run steps).observe value = session.observe value

/-! ## Equality -/

/-- Being alike is an equivalence. -/
theorem equivalence_alike (session : Session) : Equivalence session.Alike where
  refl _ := rfl
  symm := Eq.symm
  trans := Eq.trans

/-- Two values are alike if the same is observed of them. -/
theorem alike_some_iff {value value' : Value} :
    session.Alike (some value) (some value') ↔ session.observe value = session.observe value' := by
  unfold Alike
  rw [Option.map_some, Option.map_some, Option.some.injEq]

/-- Two pairs are alike if the store holds the same scripts for them. -/
theorem alike_pair_iff {key other : Key} :
    session.Alike (some (.pair key)) (some (.pair other)) ↔
      session.store.read key = session.store.read other := by
  rw [alike_some_iff]
  show Observed.pair (session.store.read key) = .pair (session.store.read other) ↔ _
  rw [Observed.pair.injEq]

/-- Where two slots hold values, or one does and the other is none, comparing them answers whether
they are equal, and its opposite. -/
theorem step_compare_alike {slot : String} {other : Option String} {value : Value}
    (h : session.slots slot = some value)
    (hother : ∀ name ∈ other, ∃ value', session.slots name = some value') :
    ∃ same, session.step (.compare slot other) = .ok (.comparison same (!same), session) ∧
      (same = true ↔ session.Alike (some value) (other.bind session.slots)) := by
  cases other with
  | some name =>
    obtain ⟨value', h'⟩ := hother name rfl
    obtain ⟨same, hstep, hsame⟩ := step_compare h h'
    refine ⟨same, hstep, ?_⟩
    rw [hsame, Option.bind_some, h', alike_some_iff]
  | none =>
    have hvalue : session.valueAt slot = .ok value := valueAt_eq_ok_iff.mpr h
    -- Comparisons see something of every value, so none is not like it.
    refine ⟨false, ?_, iff_of_false nofun nofun⟩
    simp only [step, hvalue, bind, Except.bind]
    rfl

/-! ## Hashes and sets -/

section Hashes

variable {Code : Type} (hashing : Hashing Code)

/-- A hash is made of what comparisons see. -/
theorem hash_eq_ofObserved (session : Session) (a : Option Value) :
    session.hash hashing a = hashing.ofObserved (a.map session.observe) := by
  rcases a with _ | key | d <;> rfl

/-- What is alike has the same hash. -/
theorem hash_eq_of_alike {a b : Option Value} (h : session.Alike a b) :
    session.hash hashing a = session.hash hashing b := by
  rw [hash_eq_ofObserved, hash_eq_ofObserved, h]

variable [DecidableEq Code]

/-- A set takes a member for the values that are equal to it. Comparing hashes first makes no
difference. -/
theorem takesFor_iff {value member : Value} :
    session.takesFor hashing value member = true ↔
      session.observe member = session.observe value := by
  unfold takesFor
  rw [Bool.and_eq_true, beq_iff_eq, beq_iff_eq]
  -- No member that the second test takes is lost to the first.
  exact and_iff_right_of_imp fun h => hash_eq_of_alike hashing (alike_some_iff.mpr h)

/-- Putting a value into a set adds what comparisons see of it, unless they see it of a member. -/
theorem map_observe_insert (members : List Value) (value : Value) :
    (session.insert hashing members value).map session.observe =
      if session.observe value ∈ members.map session.observe then members.map session.observe
      else members.map session.observe ++ [session.observe value] := by
  have htaken : members.any (session.takesFor hashing value) = true ↔
      session.observe value ∈ members.map session.observe := by
    rw [List.any_eq_true, List.mem_map]
    simp only [takesFor_iff]
  unfold insert
  by_cases h : session.observe value ∈ members.map session.observe
  · rw [if_pos h, if_pos (htaken.mpr h)]
  · rw [if_neg h, if_neg (mt htaken.mp h), List.map_append, List.map_singleton]

/-- Putting values into a set, one after the other, adds what comparisons see of them and not yet of
a member, once. -/
theorem map_observe_foldl_insert (members values : List Value) :
    (values.foldl (session.insert hashing) members).map session.observe =
      members.map session.observe ++ ((values.map session.observe).filter fun o =>
        o ∉ members.map session.observe).eraseDups := by
  -- The members so far are arbitrary, since each value that is put in adds to them.
  induction values generalizing members with
  | nil => simp
  | cons value rest ih =>
    rw [List.foldl_cons, ih, map_observe_insert, List.map_cons]
    by_cases h : session.observe value ∈ members.map session.observe
    · rw [if_pos h, List.filter_cons_of_neg (by simpa using h)]
    · -- The value is a member from here on, and its repetitions are left out on both sides.
      rw [if_neg h, List.filter_cons_of_pos (by simpa using h), List.eraseDups_cons,
        List.filter_filter, List.append_assoc, List.singleton_append]
      congr 3
      refine List.filter_congr fun o _ => ?_
      rw [Bool.eq_iff_iff]
      simp [and_comm]

/-- A set has one member for all that comparisons see of the values. -/
theorem map_observe_collect (values : List Value) :
    (session.collect hashing values).map session.observe =
      (values.map session.observe).eraseDups := by
  unfold collect
  rw [map_observe_foldl_insert]
  simp

end Hashes

/-! ## Counting -/

/-- What comparisons see of the values of the slots, slot by slot. -/
def observations (session : Session) (slots : List String) : List Observed :=
  (slots.filterMap session.slots).map session.observe

/-- An observation of slots is what is observed of a value in one of them. -/
theorem mem_observations_iff {slots : List String} {o : Observed} :
    o ∈ session.observations slots ↔
      ∃ slot ∈ slots, ∃ value, session.slots slot = some value ∧ session.observe value = o := by
  simp only [observations, List.mem_map, List.mem_filterMap]
  constructor
  · rintro ⟨value, ⟨slot, hslot, hvalue⟩, ho⟩
    exact ⟨slot, hslot, value, hvalue, ho⟩
  · rintro ⟨slot, hslot, value, hvalue, ho⟩
    exact ⟨value, ⟨slot, hslot, hvalue⟩, ho⟩

/-- Slots that all hold values give these. -/
theorem mapM_valueAt {slots : List String}
    (h : ∀ slot ∈ slots, ∃ value, session.slots slot = some value) :
    slots.mapM session.valueAt = .ok (slots.filterMap session.slots) := by
  induction slots with
  | nil => rfl
  | cons slot rest ih =>
    obtain ⟨hslot, hrest⟩ := List.forall_mem_cons.mp h
    obtain ⟨value, hvalue⟩ := hslot
    have hfound : session.valueAt slot = .ok value := valueAt_eq_ok_iff.mpr hvalue
    rw [List.mapM_cons, hfound, ih hrest, List.filterMap_cons_some hvalue]
    rfl

/-- A step that counts values answers how many different things comparisons see of them. -/
theorem step_distinct {slots : List String}
    (h : ∀ slot ∈ slots, ∃ value, session.slots slot = some value) :
    session.step (.distinct slots) =
      .ok (.integer (session.observations slots).toFinset.card, session) := by
  simp only [step, mapM_valueAt h, bind, Except.bind]
  rw [← observations, length_eraseDups]
  rfl

/-- The values that comparisons see so. -/
def seenAs (session : Session) (o : Observed) : Set (Option Value) :=
  {other | some o = other.map session.observe}

/-- The classes among slots are those of the observations of the slots. -/
theorem classes_eq_image (session : Session) (slots : List String) :
    session.classes slots = session.seenAs '' (session.observations slots).toFinset := by
  ext c
  rw [Set.mem_image]
  simp only [Finset.mem_coe, List.mem_toFinset, mem_observations_iff]
  constructor
  · rintro ⟨slot, hslot, value, hvalue, rfl⟩
    exact ⟨session.observe value, ⟨slot, hslot, value, hvalue, rfl⟩, rfl⟩
  · rintro ⟨o, ⟨slot, hslot, value, hvalue, rfl⟩, rfl⟩
    exact ⟨slot, hslot, value, hvalue, rfl⟩

/-- There are as many classes of equal values as different things that comparisons see. -/
theorem encard_classes (session : Session) (slots : List String) :
    (session.classes slots).encard = (session.observations slots).toFinset.card := by
  -- A class has the value of a slot in it, so it tells what comparisons see.
  have hinj : Set.InjOn session.seenAs (session.observations slots).toFinset := by
    intro o ho o' _ heq
    obtain ⟨-, -, value, -, rfl⟩ := mem_observations_iff.mp (List.mem_toFinset.mp ho)
    have hself : some value ∈ session.seenAs (session.observe value) := rfl
    rw [heq] at hself
    exact (Option.some.inj hself).symm
  rw [classes_eq_image, hinj.encard_image, Set.encard_coe_eq_coe_finsetCard]

/-- A set of the values of slots has as many members as comparisons see different things. -/
theorem length_collect {Code : Type} [DecidableEq Code] (hashing : Hashing Code)
    (slots : List String) :
    (session.collect hashing (slots.filterMap session.slots)).length =
      (session.observations slots).toFinset.card := by
  rw [← List.length_map session.observe, map_observe_collect, ← observations, length_eraseDups]

/-- The order of slots and their repetition make no difference to what is seen. -/
theorem toFinset_observations_congr {slots other : List String}
    (h : ∀ slot, slot ∈ other ↔ slot ∈ slots) :
    (session.observations other).toFinset = (session.observations slots).toFinset := by
  ext o
  simp only [List.mem_toFinset, mem_observations_iff, h]

/-! ## Changes -/

/-- Assigning through a slot changes what comparisons see of the pair in the slot and of nothing
else. -/
theorem observe_after_assign {slot : String} {value : Value} (h : session.slots slot ≠ some value)
    (half : Half) (script : Script) :
    (session.after (.assign slot half script)).observe value = session.observe value := by
  rcases after_cases session (.assign slot half script) with
    ⟨-, hafter⟩ | ⟨⟨answer, hanswer⟩, -⟩
  · rw [hafter]
  · -- The slot holds a pair, and the value is another.
    obtain ⟨key, hkey, -⟩ := bind_eq_ok_iff.mp hanswer
    have hslot : session.slots slot = some (.pair key) := pairAt_eq_ok_iff.mp hkey
    rw [after_assign hslot]
    cases value with
    | descriptor d => rfl
    | pair other =>
      have hne : other ≠ key := by
        rintro rfl
        exact h hslot
      exact congrArg Observed.pair (Store.read_assign_of_ne hne half script)

/-- Over a run comparisons see the same of a value, unless something is assigned to the pair that it
is. -/
theorem observe_run {value : Value} {steps : List Step} (hvalue : session.store.Holds value.key)
    (h : ∀ key ∈ value.key?, session.assignments key steps = []) :
    (session.run steps).observe value = session.observe value := by
  cases value with
  | descriptor d => rfl
  | pair key =>
    have hholds : session.store.Holds key := hvalue
    have hread : (session.run steps).store.read key = session.store.read key := by
      rw [read_run hholds, h key rfl]
      rfl
    exact congrArg Observed.pair hread

/-- Values of which comparisons see the same as before are equal when they were before. -/
theorem alike_congr {next : Session} {a b : Option Value}
    (ha : ∀ value ∈ a, next.observe value = session.observe value)
    (hb : ∀ value ∈ b, next.observe value = session.observe value) :
    next.Alike a b ↔ session.Alike a b := by
  unfold Alike
  rw [Option.map_congr ha, Option.map_congr hb]

/-- In every session that steps lead to, equality, hashes and counts agree. -/
theorem consistent_run (steps : List Step) : (({} : Session).run steps).Consistent := by
  have hclosed := closed_run closed_empty steps
  generalize ({} : Session).run steps = session at hclosed
  constructor
  case equivalence => exact session.equivalence_alike
  case compared =>
    intro slot other value hvalue hother
    exact step_compare_alike hvalue hother
  case apart =>
    intro key d
    exact ⟨nofun, nofun, nofun⟩
  case pairs =>
    intro key other
    rw [alike_pair_iff, ScriptPair.eq_iff_scripts]
  case missing =>
    intro key other half n i i' hi hi' hnone hempty halike
    -- Equal pairs have the same instruction in the same place.
    rw [alike_pair_iff.mp halike, hi'] at hi
    rw [← Option.some.inj hi, hempty] at hnone
    cases hnone
  case descriptors =>
    intro d d'
    rw [alike_some_iff, observe_descriptor_eq_iff, Operation.eq_iff_opcode_args]
  case hashed =>
    intro a b halike Code hashing
    exact hash_eq_of_alike hashing halike
  case counted =>
    intro slots hslots
    refine ⟨(session.observations slots).toFinset.card, step_distinct hslots,
      encard_classes session slots, fun Code _ hashing => length_collect hashing slots,
      fun other hother => ?_⟩
    rw [← toFinset_observations_congr hother]
    exact step_distinct fun slot hslot => hslots slot ((hother slot).mp hslot)
  case assigned =>
    intro slot half script
    refine ⟨fun value hvalue => observe_after_assign hvalue half script, fun a b ha hb => ?_⟩
    exact alike_congr (fun value hvalue => observe_after_assign (ha value hvalue) half script)
      fun value hvalue => observe_after_assign (hb value hvalue) half script
  case kept =>
    intro slot value steps hvalue hassignments
    exact observe_run (hclosed slot value hvalue) hassignments

/-- Two pairs that are equal are not counted as two before one of them is changed. A descriptor is
counted as one with its like, although only one of them has the changed pair as its source. -/
example :
    let session := ({} : Session).run [.makePair "pair" {}, .makePair "other" {},
      .construct "descriptor" Opcode.one [[]] (some "pair") (.known .latin1),
      .construct "like" Opcode.one [[]] none (.known .utf8)]
    let next := session.after (.assign "pair" .locking [⟨Opcode.dup, none⟩])
    let slots := ["like", "pair", "other", "descriptor", "pair"]
    (session.step (.distinct slots)).map Prod.fst = .ok (.integer 2) ∧
      (next.step (.distinct slots)).map Prod.fst = .ok (.integer 3) := by
  constructor
  · decide +kernel
  · decide +kernel

end Session

end NameOutputs
