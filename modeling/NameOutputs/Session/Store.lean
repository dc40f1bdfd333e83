import NameOutputs.Script.Basic

/-!
# The store of script pairs

Script pairs can be changed in place, and several holders may refer to one pair. A store keeps every
pair under a key of its own, which is never given to another pair; a change through one key is seen
by every holder of that key and by no other.
-/

namespace NameOutputs

/-- A reference to a pair in a store. -/
structure Key where
  /-- The position of the pair. -/
  index : Nat
deriving DecidableEq

/-- One of the scripts of a pair. -/
inductive Half
  /-- The script of the input. -/
  | unlocking
  /-- The script of the output. -/
  | locking
deriving DecidableEq

/-- The script in a half of the pair. -/
def ScriptPair.half (pair : ScriptPair) : Half → Script
  | .unlocking => pair.unlocking
  | .locking => pair.locking

/-- The pair with another script in one half. -/
def ScriptPair.withHalf (pair : ScriptPair) (half : Half) (script : Script) : ScriptPair :=
  match half with
  | .unlocking => { pair with unlocking := script }
  | .locking => { pair with locking := script }

/-- The pairs made so far, the oldest first. -/
structure Store where
  /-- Each pair, at the position of its key. -/
  pairs : List ScriptPair := []

namespace Store

/-- Whether the key refers to a pair of the store. -/
def Holds (store : Store) (key : Key) : Prop :=
  key.index < store.pairs.length

/-- The pair of a key. -/
def read (store : Store) (key : Key) : ScriptPair :=
  store.pairs[key.index]?.getD {}

/-- The key that the next pair gets. -/
def fresh (store : Store) : Key :=
  ⟨store.pairs.length⟩

/-- The store with another pair, under the fresh key. -/
def add (store : Store) (pair : ScriptPair) : Store where
  pairs := store.pairs ++ [pair]

/-- The store with another script in one half of the pair of a key. -/
def assign (store : Store) (key : Key) (half : Half) (script : Script) : Store where
  pairs := store.pairs.modify key.index fun pair => pair.withHalf half script

/-- Adding a pair changes no other. -/
theorem read_add {store : Store} {key : Key} (h : store.Holds key) (pair : ScriptPair) :
    (store.add pair).read key = store.read key := by
  simp only [read, add, List.getElem?_append_left h]

/-- Assigning changes the half of the pair of the key. -/
theorem read_assign_self {store : Store} {key : Key} (h : store.Holds key) (half : Half)
    (script : Script) :
    (store.assign key half script).read key = (store.read key).withHalf half script := by
  simp only [read, assign, List.getElem?_modify]
  rw [List.getElem?_eq_getElem h]
  simp

/-- Assigning changes no pair of another key. -/
theorem read_assign_of_ne {store : Store} {key other : Key} (h : other ≠ key) (half : Half)
    (script : Script) : (store.assign key half script).read other = store.read other := by
  have hne : key.index ≠ other.index := fun e => h (by cases key; cases other; simp_all)
  simp [read, assign, hne]

end Store

end NameOutputs
