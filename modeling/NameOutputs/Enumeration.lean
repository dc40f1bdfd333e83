import NameOutputs.Text.Numeral

/-!
# Enumerations

An enumeration gives names to integers. It is built from entries, each a name with or without a
value of its own: an entry without one takes the value after that of the entry before it, and the
first such entry takes zero. No two entries may share a name or a value, so names and values
determine each other.
-/

namespace NameOutputs

/-- Names and their values in the order of definition. -/
structure Enumeration where
  /-- What the enumeration is called. -/
  title : Text
  /-- Each name with its value. -/
  entries : List (Text × Int)
  /-- No name stands twice. -/
  names_nodup : (entries.map Prod.fst).Nodup
  /-- No value stands twice. -/
  values_nodup : (entries.map Prod.snd).Nodup

namespace Enumeration

/-- A name to be defined, and its value if the entry sets one. -/
structure Entry where
  /-- The name. -/
  name : Text
  /-- The value that the entry sets. -/
  value? : Option Int := none

/-- The entries with their values, where the first takes `next` if it sets none. -/
def number (next : Int) : List Entry → List (Text × Int)
  | [] => []
  | entry :: rest =>
    let value := entry.value?.getD next
    (entry.name, value) :: number (value + 1) rest

/-- Numbering keeps the names. -/
theorem map_fst_number (next : Int) (entries : List Entry) :
    (number next entries).map Prod.fst = entries.map Entry.name := by
  induction entries generalizing next with
  | nil => rfl
  | cons entry rest ih => simp [number, ih]

/-- What an entry has in common with one before it. -/
inductive Duplicate
  /-- The entry's name. -/
  | name (name : Text)
  /-- The entry's value, under the name that the entry gives it. -/
  | value (name : Text)
deriving DecidableEq

/-- The first entry that shares its name, or else its value, with one before it, where `seen` stand
before all of them. -/
def duplicate? (seen : List (Text × Int)) : List (Text × Int) → Option Duplicate
  | [] => none
  | (name, value) :: rest =>
    if name ∈ seen.map Prod.fst then some (.name name)
    else if value ∈ seen.map Prod.snd then some (.value name)
    else duplicate? ((name, value) :: seen) rest

/-- There is no duplicate exactly when no name and no value stands twice. -/
theorem duplicate?_eq_none_iff (seen pairs : List (Text × Int)) :
    duplicate? seen pairs = none ↔
      (pairs.map Prod.fst).Nodup ∧ (pairs.map Prod.snd).Nodup ∧
        (∀ name ∈ pairs.map Prod.fst, name ∉ seen.map Prod.fst) ∧
          ∀ value ∈ pairs.map Prod.snd, value ∉ seen.map Prod.snd := by
  induction pairs generalizing seen with
  | nil => simp [duplicate?]
  | cons p rest ih =>
    obtain ⟨name, value⟩ := p
    simp only [duplicate?]
    split
    · next h => exact iff_of_false (by simp) fun hc => hc.2.2.1 name (by simp) h
    · next hname =>
      split
      · next h => exact iff_of_false (by simp) fun hc => hc.2.2.2 value (by simp) h
      · next hvalue =>
        rw [ih]
        simp only [List.map_cons, List.nodup_cons, List.mem_cons, not_or, forall_eq_or_imp]
        constructor
        · rintro ⟨hn, hv, hns, hvs⟩
          exact ⟨⟨fun h => (hns name h).1 rfl, hn⟩, ⟨fun h => (hvs value h).1 rfl, hv⟩,
            ⟨hname, fun n h => (hns n h).2⟩, hvalue, fun v h => (hvs v h).2⟩
        · rintro ⟨⟨hn, hns⟩, ⟨hv, hvs⟩, ⟨-, hsn⟩, -, hsv⟩
          exact ⟨hns, hvs, fun n h => ⟨fun e => hn (e ▸ h), hsn n h⟩,
            fun v h => ⟨fun e => hv (e ▸ h), hsv v h⟩⟩

/-- The enumeration of the entries. -/
def ofEntries (title : Text) (entries : List Entry) : Except Duplicate Enumeration :=
  match h : duplicate? [] (number 0 entries) with
  | some duplicate => .error duplicate
  | none => .ok {
      title
      entries := number 0 entries
      names_nodup := ((duplicate?_eq_none_iff _ _).1 h).1
      values_nodup := ((duplicate?_eq_none_iff _ _).1 h).2.1 }

/-- Names that begin with two underscores are kept from look-up. -/
def isReserved (name : Text) : Bool :=
  (Text.ofString "__").isPrefixOf name

/-- The value of a name that is defined and not reserved. -/
def value? (e : Enumeration) (name : Text) : Option Int :=
  if isReserved name then none else (e.entries.find? fun p => p.1 = name).map Prod.snd

/-- The name of a value. -/
def name? (e : Enumeration) (value : Int) : Option Text :=
  (e.entries.find? fun p => p.2 = value).map Prod.fst

/-- Whether the value has a name. -/
def contains (e : Enumeration) (value : Int) : Bool :=
  e.entries.any fun p => p.2 = value

/-- The number of entries. -/
def size (e : Enumeration) : Nat :=
  e.entries.length

/-- Why a look-up has no answer. -/
inductive LookupFault
  /-- No value has this name. -/
  | noValue (name : Text)
  /-- No name has this value. -/
  | noName (value : Int)
deriving DecidableEq

/-- The value of a name. -/
def valueOf (e : Enumeration) (name : Text) : Except LookupFault Int :=
  match e.value? name with
  | some value => .ok value
  | none => .error (.noValue name)

/-- The name of a value, or what the caller gives for a value that has none. -/
def nameOf (e : Enumeration) (value : Int) (otherwise : Option Text) : Except LookupFault Text :=
  match (e.name? value).or otherwise with
  | some name => .ok name
  | none => .error (.noName value)

/-- The wording of a duplicate. -/
def Duplicate.message : Duplicate → Text
  | name n => Text.ofString "enum name is not unique: " ++ n
  | value n => Text.ofString "enum value is not unique for " ++ n

/-- The wording of a look-up without an answer. -/
def LookupFault.message : LookupFault → Text
  | noValue name => name
  | noName value => Text.decimal value

end Enumeration

end NameOutputs
