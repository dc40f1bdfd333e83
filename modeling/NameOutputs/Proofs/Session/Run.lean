import NameOutputs.Session.Step

/-!
# Runs of a session

What a step can do to a session is said once, by `Transition`: it asks and changes nothing, it
assigns a half of a pair, or it makes a value for its slot. The pair of a new descriptor is then one
that a slot holds, or one that is made for the descriptor alone. `Session.after_cases` shows that a
step that answers is one of these and that a step that fails changes nothing. All that holds over
runs is derived from there, first for one step and then, by induction, for a run.

The invariant is `Session.Closed`: every key in a slot is that of a pair in the store. So the fresh
key is in no slot, and the pair that is added under it is no other pair.
-/

namespace NameOutputs

/-- A computation that starts with another one has a result when the first has one and the rest has
one on it. -/
theorem bind_eq_ok_iff {ε α β : Type} {x : Except ε α} {f : α → Except ε β} {b : β} :
    x >>= f = .ok b ↔ ∃ a, x = .ok a ∧ f a = .ok b := by
  cases x <;> simp [bind, Except.bind]

/-- Renaming errors changes no result. -/
theorem mapError_eq_ok_iff {ε ε' α : Type} {x : Except ε α} {f : ε → ε'} {a : α} :
    x.mapError f = .ok a ↔ x = .ok a := by
  cases x with
  | error fault => exact iff_of_false nofun nofun
  | ok b =>
    show Except.ok b = .ok a ↔ _
    rw [Except.ok.injEq, Except.ok.injEq]

/-- The key that a value holds: that of the pair that it is, or that of its source. -/
def Value.key : Value → Key
  | pair key => key
  | descriptor d => d.source

namespace Step

/-- The slot that the step makes a value for. -/
def target? : Step → Option String
  | makePair slot _ | parse slot _ _ | construct slot _ _ _ _ => some slot
  | _ => none

/-- The slot whose pair is the source of the descriptor that the step makes. -/
def sourceSlot? : Step → Option String
  | parse _ (.slot origin) _ => some origin
  | construct _ _ _ source? _ => source?
  | _ => none

/-- The pair that the step makes as the source of a descriptor and for nothing else. -/
def ownPair? : Step → Option ScriptPair
  | parse _ (.bare locking) _ => some (.ofLocking locking)
  | construct _ _ _ none _ => some {}
  | _ => none

end Step

/-- What a step that answers makes of the session. -/
inductive Transition (session : Session) : Step → Session → Prop
  /-- The step asks, and changes nothing. -/
  | ask {s : Step} : s.target? = none → Transition session s session
  /-- A half of the pair in a slot gets another script. -/
  | assign {slot : String} {half : Half} {script : Script} {key : Key} :
    session.slots slot = some (.pair key) →
    Transition session (.assign slot half script)
      { session with store := session.store.assign key half script }
  /-- A slot gets a new pair. -/
  | makePair {slot : String} {pair : ScriptPair} :
    Transition session (.makePair slot pair)
      ((session.addPair pair).put slot (.pair session.store.fresh))
  /-- A slot gets a descriptor, and its source is the pair in a slot. -/
  | describe {s : Step} {slot origin : String} {d : Descriptor Key} :
    s.target? = some slot → s.sourceSlot? = some origin → s.ownPair? = none →
    session.slots origin = some (.pair d.source) →
    Transition session s (session.put slot (.descriptor d))
  /-- A slot gets a descriptor, and its source is a new pair. -/
  | describeOwn {s : Step} {slot : String} {pair : ScriptPair} {d : Descriptor Key} :
    s.target? = some slot → s.sourceSlot? = none → s.ownPair? = some pair →
    d.source = session.store.fresh →
    Transition session s ((session.addPair pair).put slot (.descriptor d))

namespace Store

/-- The fresh key is that of no pair so far. -/
theorem ne_fresh_of_holds {store : Store} {key : Key} (h : store.Holds key) :
    key ≠ store.fresh := by
  rintro rfl
  exact Nat.lt_irrefl _ h

/-- A store holds the pair that was added to it. -/
theorem holds_add_fresh (store : Store) (pair : ScriptPair) :
    (store.add pair).Holds store.fresh := by
  simp [Holds, add, fresh]

/-- Adding a pair keeps those that the store holds. -/
theorem Holds.add {store : Store} {key : Key} (h : store.Holds key) (pair : ScriptPair) :
    (store.add pair).Holds key := by
  simp only [Holds, Store.add, List.length_append] at h ⊢
  omega

/-- Assigning to a pair keeps those that the store holds. -/
theorem Holds.assign {store : Store} {key other : Key} (h : store.Holds key) (half : Half)
    (script : Script) : (store.assign other half script).Holds key := by
  simpa only [Holds, Store.assign, List.length_modify] using h

end Store

namespace Session

variable {session next : Session} {s : Step}

/-- A slot holds what was put into it. -/
@[simp] theorem slots_put_self (session : Session) (slot : String) (value : Value) :
    (session.put slot value).slots slot = some value :=
  if_pos rfl

/-- A slot holds nothing but what was put into it. -/
theorem eq_of_slots_put_self {slot : String} {value found : Value}
    (h : (session.put slot value).slots slot = some found) : value = found :=
  Option.some.inj ((slots_put_self session slot value).symm.trans h)

/-- Putting a value into a slot changes no other slot. -/
theorem slots_put_of_ne {slot other : String} (h : other ≠ slot) (session : Session)
    (value : Value) : (session.put slot value).slots other = session.slots other :=
  if_neg h

/-! ## One step -/

/-- What a step finds in a slot is what the slot holds, seen as the step needs it. -/
theorem find_eq_ok_iff {Needed : Type} {slot : String} {view : Value → Option Needed}
    {needed : Needed} :
    session.find slot view = .ok needed ↔
      ∃ value, session.slots slot = some value ∧ view value = some needed := by
  rw [← Option.bind_eq_some_iff]
  unfold find
  cases (session.slots slot).bind view <;> simp

/-- Looking a slot up gives the value in it. -/
theorem valueAt_eq_ok_iff {slot : String} {value : Value} :
    session.valueAt slot = .ok value ↔ session.slots slot = some value := by
  unfold valueAt
  rw [find_eq_ok_iff]
  simp only [Option.some.injEq, exists_eq_right]

/-- Looking a slot up for a pair gives the pair in it. -/
theorem pairAt_eq_ok_iff {slot : String} {key : Key} :
    session.pairAt slot = .ok key ↔ session.slots slot = some (.pair key) := by
  unfold pairAt
  rw [find_eq_ok_iff]
  constructor
  · rintro ⟨value, hslot, hview⟩
    cases value with
    | pair found => rw [hslot, Option.some.inj hview]
    | descriptor d => cases hview
  · intro hslot
    exact ⟨_, hslot, rfl⟩

/-- Looking a slot up for a descriptor gives the descriptor in it. -/
theorem descriptorAt_eq_ok_iff {slot : String} {d : Descriptor Key} :
    session.descriptorAt slot = .ok d ↔ session.slots slot = some (.descriptor d) := by
  unfold descriptorAt
  rw [find_eq_ok_iff]
  constructor
  · rintro ⟨value, hslot, hview⟩
    cases value with
    | pair key => cases hview
    | descriptor found => rw [hslot, Option.some.inj hview]
  · intro hslot
    exact ⟨_, hslot, rfl⟩

/-- A step that reads from the descriptor in a slot answers what it reads. -/
theorem step_get {slot : String} {d : Descriptor Key}
    (h : session.slots slot = some (.descriptor d)) (asked : Attribute) :
    session.step (.get slot asked) =
      ((session.read d asked).mapError .operation).map fun answer => (answer, session) := by
  have hdescriptor := descriptorAt_eq_ok_iff.mpr h
  simp only [step, hdescriptor, bind, Except.bind]
  cases session.read d asked <;> rfl

/-- A step that attempts to change the descriptor in a slot is refused. -/
theorem step_set {slot : String} {d : Descriptor Key}
    (h : session.slots slot = some (.descriptor d)) (name : String) :
    session.step (.set slot name) = .error (.refused (d.operation.refusal name)) := by
  have hdescriptor := descriptorAt_eq_ok_iff.mpr h
  simp only [step, hdescriptor, bind, Except.bind]
  rfl

/-- A descriptor that is parsed has the source that it is given. -/
theorem source_of_parse {encoding : Encoding} {pair : ScriptPair} {key : Key}
    {d : Descriptor Key} (h : Descriptor.parse encoding pair key = .ok d) : d.source = key := by
  obtain ⟨operation, -, h⟩ := bind_eq_ok_iff.mp h
  rw [← Except.ok.inj h]

/-- A descriptor that is made of its arguments has the source that it is given. -/
theorem source_of_ofArgs {opcode : Int} {args : List Text} {encoding : Encoding} {key : Key}
    {d : Descriptor Key} (h : Descriptor.ofArgs opcode args encoding key = .ok d) :
    d.source = key := by
  obtain ⟨operation, -, h⟩ := bind_eq_ok_iff.mp h
  rw [← Except.ok.inj h]

/-- What is returned with an answer is the session after the step. -/
theorem eq_of_answer {given answer : Answer} {made : Session}
    (h : (return (given, made) : Except StepFault (Answer × Session)) = .ok (answer, next)) :
    made = next :=
  (Prod.mk.inj (Except.ok.inj h)).2

/-- What a step that answers makes of the session. -/
theorem transition_of_step {answer : Answer} (h : session.step s = .ok (answer, next)) :
    Transition session s next := by
  cases s with
  | makePair slot pair =>
    obtain rfl := eq_of_answer h
    exact .makePair
  | parse slot origin encoding =>
    cases origin with
    | slot origin =>
      obtain ⟨key, hkey, h⟩ := bind_eq_ok_iff.mp h
      obtain ⟨d, hd, h⟩ := bind_eq_ok_iff.mp h
      obtain rfl := eq_of_answer h
      have hsource := source_of_parse (mapError_eq_ok_iff.mp hd)
      exact .describe rfl rfl rfl (hsource ▸ pairAt_eq_ok_iff.mp hkey)
    | bare locking =>
      obtain ⟨d, hd, h⟩ := bind_eq_ok_iff.mp h
      obtain rfl := eq_of_answer h
      exact .describeOwn rfl rfl rfl (source_of_parse (mapError_eq_ok_iff.mp hd))
  | construct slot opcode args source? encoding =>
    cases source? with
    | some source =>
      obtain ⟨key, hkey, h⟩ := bind_eq_ok_iff.mp h
      obtain ⟨d, hd, h⟩ := bind_eq_ok_iff.mp h
      obtain rfl := eq_of_answer h
      have hsource := source_of_ofArgs (mapError_eq_ok_iff.mp hd)
      exact .describe rfl rfl rfl (hsource ▸ pairAt_eq_ok_iff.mp hkey)
    | none =>
      obtain ⟨d, hd, h⟩ := bind_eq_ok_iff.mp h
      obtain rfl := eq_of_answer h
      exact .describeOwn rfl rfl rfl (source_of_ofArgs (mapError_eq_ok_iff.mp hd))
  | assign slot half script =>
    obtain ⟨key, hkey, h⟩ := bind_eq_ok_iff.mp h
    obtain rfl := eq_of_answer h
    exact .assign (pairAt_eq_ok_iff.mp hkey)
  | set slot name =>
    obtain ⟨d, -, h⟩ := bind_eq_ok_iff.mp h
    cases h
  | get slot asked =>
    obtain ⟨d, -, h⟩ := bind_eq_ok_iff.mp h
    obtain ⟨answer, -, h⟩ := bind_eq_ok_iff.mp h
    obtain rfl := eq_of_answer h
    exact .ask rfl
  | reveals revealing committing =>
    obtain ⟨a, -, h⟩ := bind_eq_ok_iff.mp h
    obtain ⟨b, -, h⟩ := bind_eq_ok_iff.mp h
    obtain ⟨answer, -, h⟩ := bind_eq_ok_iff.mp h
    obtain rfl := eq_of_answer h
    exact .ask rfl
  | compare slot other =>
    obtain ⟨a, -, h⟩ := bind_eq_ok_iff.mp h
    obtain ⟨b, -, h⟩ := bind_eq_ok_iff.mp h
    obtain rfl := eq_of_answer h
    exact .ask rfl
  | sameSource slot pairSlot =>
    obtain ⟨d, -, h⟩ := bind_eq_ok_iff.mp h
    obtain ⟨key, -, h⟩ := bind_eq_ok_iff.mp h
    obtain rfl := eq_of_answer h
    exact .ask rfl
  | distinct slots | length slot | render slot =>
    obtain ⟨found, -, h⟩ := bind_eq_ok_iff.mp h
    obtain rfl := eq_of_answer h
    exact .ask rfl

/-- After a step that fails the session is as before. -/
theorem after_of_error {fault : StepFault} (h : session.step s = .error fault) :
    session.after s = session := by
  unfold after
  rw [h]

/-- After a step that succeeds the session is the one that the step gives. -/
theorem after_of_ok {answer : Answer} (h : session.step s = .ok (answer, next)) :
    session.after s = next := by
  unfold after
  rw [h]

/-- A step fails and changes nothing, or it answers and makes what its kind can make of the
session. -/
theorem after_cases (session : Session) (s : Step) :
    (∃ fault, session.step s = .error fault) ∧ session.after s = session ∨
      (∃ answer, session.step s = .ok (answer, session.after s)) ∧
        Transition session s (session.after s) := by
  cases h : session.step s with
  | error fault => exact .inl ⟨⟨fault, rfl⟩, after_of_error h⟩
  | ok found =>
    obtain ⟨answer, next⟩ := found
    rw [after_of_ok h]
    exact .inr ⟨⟨answer, rfl⟩, transition_of_step h⟩

/-- Every key in a slot is that of a pair in the store. -/
def Closed (session : Session) : Prop :=
  ∀ slot value, session.slots slot = some value → session.store.Holds value.key

/-- The session at the start is closed. -/
theorem closed_empty : ({} : Session).Closed := by
  intro slot value h
  cases h

/-- A value goes into a slot whose key is that of a pair. -/
theorem Closed.put (h : session.Closed) {value : Value} (hvalue : session.store.Holds value.key)
    (slot : String) : (session.put slot value).Closed := by
  intro other found hfound
  by_cases hother : other = slot
  · rw [hother] at hfound
    rwa [← eq_of_slots_put_self hfound]
  · rw [slots_put_of_ne hother] at hfound
    exact h other found hfound

/-- Adding a pair keeps a session closed. -/
theorem Closed.addPair (h : session.Closed) (pair : ScriptPair) :
    (session.addPair pair).Closed :=
  fun slot value hvalue => (h slot value hvalue).add pair

end Session

namespace Transition

variable {session next : Session} {s : Step}

/-- The store keeps its pairs. -/
theorem holds (h : Transition session s next) {key : Key} (hkey : session.store.Holds key) :
    next.store.Holds key := by
  cases h with
  | ask | describe => exact hkey
  | assign => exact hkey.assign _ _
  | makePair | describeOwn => exact hkey.add _

/-- No key gets into a slot before its pair is in the store. -/
theorem closed (h : Transition session s next) (hsession : session.Closed) : next.Closed := by
  cases h with
  | ask => exact hsession
  | assign => exact fun slot value hvalue => (hsession slot value hvalue).assign _ _
  | @makePair slot pair =>
    have hfresh : (session.addPair pair).store.Holds (Value.pair session.store.fresh).key :=
      session.store.holds_add_fresh pair
    exact (hsession.addPair pair).put hfresh slot
  | @describe _ slot origin d _ _ _ horigin =>
    have hkey : session.store.Holds (Value.descriptor d).key :=
      hsession origin (.pair d.source) horigin
    exact hsession.put hkey slot
  | @describeOwn _ slot pair d _ _ _ hsource =>
    have hkey : (session.addPair pair).store.Holds (Value.descriptor d).key := by
      show (session.store.add pair).Holds d.source
      rw [hsource]
      exact session.store.holds_add_fresh pair
    exact (hsession.addPair pair).put hkey slot

/-- A slot that the step makes no value for keeps what it holds. -/
theorem slots_of_ne (h : Transition session s next) {slot : String}
    (hslot : s.target? ≠ some slot) : next.slots slot = session.slots slot := by
  cases h with
  | ask | assign => rfl
  | makePair =>
    refine Session.slots_put_of_ne ?_ _ _
    rintro rfl
    exact hslot rfl
  | describe htarget | describeOwn htarget =>
    refine Session.slots_put_of_ne ?_ _ _
    rintro rfl
    exact hslot htarget

end Transition

namespace Session

/-! ## Many steps -/

/-- The session after the steps, one after the other. -/
def run (session : Session) : List Step → Session
  | [] => session
  | s :: rest => (session.after s).run rest

/-- A step keeps a session closed. -/
theorem closed_after {session : Session} (h : session.Closed) (s : Step) :
    (session.after s).Closed := by
  rcases after_cases session s with ⟨-, hafter⟩ | ⟨-, htransition⟩
  · rwa [hafter]
  · exact htransition.closed h

/-- A run keeps a session closed. -/
theorem closed_run {session : Session} (h : session.Closed) (steps : List Step) :
    (session.run steps).Closed := by
  induction steps generalizing session with
  | nil => exact h
  | cons s rest ih => exact ih (closed_after h s)

/-- A step keeps the pairs that the store holds. -/
theorem holds_after {session : Session} {key : Key} (h : session.store.Holds key) (s : Step) :
    (session.after s).store.Holds key := by
  rcases after_cases session s with ⟨-, hafter⟩ | ⟨-, htransition⟩
  · rwa [hafter]
  · exact htransition.holds h

/-- The step makes the value: it answers, and the value is in its slot then. -/
def Makes (session : Session) (s : Step) (slot : String) (value : Value) : Prop :=
  s.target? = some slot ∧ (∃ answer, session.step s = .ok (answer, session.after s)) ∧
    (session.after s).slots slot = some value

/-- A step makes the value that it answers for. -/
theorem makes_of_step {session made : Session} {s : Step} {slot : String} {value : Value}
    (htarget : s.target? = some slot) (h : session.step s = .ok (made.made slot value)) :
    session.Makes s slot value := by
  have hafter : session.after s = made.put slot value := after_of_ok h
  unfold Makes
  rw [hafter]
  exact ⟨htarget, ⟨_, h⟩, slots_put_self made slot value⟩

end Session

end NameOutputs
