import NameOutputs.Proofs.Enumeration.Numbering

/-!
# Names and values find each other

An enumeration is asked for the value of a name and for the name of a value.
`Enumeration.MutuallyInverse` says what the answers are in terms of the pairs that were defined, and
`ofEntries_mutuallyInverse` shows it of every enumeration that entries make. Names that begin with
two underscores are the exception: they can be defined, and are found by their values, but they are
not looked up.

Both look-ups search the same list of pairs by one of its columns. No column holds anything twice,
so what is found by a key is the one pair that has it (`find?_eq_some_iff_of_nodup`).
-/

namespace NameOutputs.Enumeration

/-- The entries define the name with the value. -/
def Defines (entries : List Entry) (name : Text) (value : Int) : Prop :=
  ∃ i, (names entries)[i]? = some name ∧ valueAt 0 entries i = value

/-- What an enumeration answers if the pairs are the ones that were defined. -/
structure MutuallyInverse (e : Enumeration) (Defined : Text → Int → Prop) : Prop where
  /-- A value is contained exactly if some name is defined with it. -/
  contains_iff : ∀ value, e.contains value = true ↔ ∃ name, Defined name value
  /-- Only one name is defined with a value. -/
  name_unique : ∀ value name other, Defined name value → Defined other value → name = other
  /-- The name of a value is the one that is defined with it, whatever the caller gives for values
  that have none. -/
  nameOf_of_defined : ∀ value name otherwise, Defined name value →
    e.nameOf value otherwise = .ok name
  /-- A name has the value that it is defined with, if it does not begin with two underscores. -/
  valueOf_eq_ok_iff : ∀ name value, e.valueOf name = .ok value ↔
    Defined name value ∧ ¬ Text.ofString "__" <+: name
  /-- The value of any other name is asked for in vain. -/
  valueOf_eq_error_iff : ∀ name fault, e.valueOf name = .error fault ↔
    fault = .noValue name ∧ ∀ value, Defined name value → Text.ofString "__" <+: name
  /-- The value of a name has that name. -/
  nameOf_valueOf : ∀ name value otherwise, e.valueOf name = .ok value →
    e.nameOf value otherwise = .ok name
  /-- The name of a value has that value, if it does not begin with two underscores. -/
  valueOf_nameOf : ∀ value otherwise, e.contains value = true →
    ∃ name, e.nameOf value otherwise = .ok name ∧
      (¬ Text.ofString "__" <+: name → e.valueOf name = .ok value)
  /-- A value without a name has the one that the caller gives, be it empty, and if the caller gives
  none the name is asked for in vain. -/
  nameOf_of_not_contains : ∀ value, ¬ e.contains value = true →
    (∀ name, e.nameOf value (some name) = .ok name) ∧ e.nameOf value none = .error (.noName value)

/-- If no key stands twice, what is found by a key is what has the key. -/
theorem find?_eq_some_iff_of_nodup {α β : Type} [DecidableEq β] {l : List α} {key : α → β}
    (h : (l.map key).Nodup) {k : β} {a : α} :
    l.find? (fun b => key b = k) = some a ↔ a ∈ l ∧ key a = k := by
  constructor
  · intro hfind
    have hkey := List.find?_some hfind
    exact ⟨List.mem_of_find?_eq_some hfind, of_decide_eq_true hkey⟩
  · rintro ⟨ha, rfl⟩
    have hsome : (l.find? fun b => key b = key a).isSome :=
      List.find?_isSome.mpr ⟨a, ha, decide_eq_true rfl⟩
    obtain ⟨b, hb⟩ := Option.isSome_iff_exists.mp hsome
    have hkey := List.find?_some hb
    rw [hb, List.inj_on_of_nodup_map h (List.mem_of_find?_eq_some hb) ha (of_decide_eq_true hkey)]

variable {e : Enumeration} {name : Text} {value : Int}

/-- The name of a value is the one that it is paired with. -/
theorem name?_eq_some_iff : e.name? value = some name ↔ (name, value) ∈ e.entries := by
  rw [name?, Option.map_eq_some_iff]
  constructor
  · rintro ⟨⟨name, value⟩, hfind, rfl⟩
    obtain ⟨hmem, rfl⟩ := (find?_eq_some_iff_of_nodup e.values_nodup).mp hfind
    exact hmem
  · intro hmem
    exact ⟨(name, value), (find?_eq_some_iff_of_nodup e.values_nodup).mpr ⟨hmem, rfl⟩, rfl⟩

/-- The value of a name is the one that it is paired with, unless the name is reserved. -/
theorem value?_eq_some_iff :
    e.value? name = some value ↔ (name, value) ∈ e.entries ∧ ¬ Text.ofString "__" <+: name := by
  have hreserved : isReserved name = true ↔ Text.ofString "__" <+: name :=
    List.isPrefixOf_iff_prefix
  rw [value?, ← hreserved]
  by_cases h : isReserved name = true
  · rw [if_pos h]
    exact iff_of_false nofun fun hc => hc.2 h
  · rw [if_neg h, Option.map_eq_some_iff, and_iff_left h]
    constructor
    · rintro ⟨⟨name, value⟩, hfind, rfl⟩
      obtain ⟨hmem, rfl⟩ := (find?_eq_some_iff_of_nodup e.names_nodup).mp hfind
      exact hmem
    · intro hmem
      exact ⟨(name, value), (find?_eq_some_iff_of_nodup e.names_nodup).mpr ⟨hmem, rfl⟩, rfl⟩

/-- An enumeration contains the values of its entries. -/
theorem contains_iff_exists_mem : e.contains value = true ↔ ∃ name, (name, value) ∈ e.entries := by
  rw [contains, List.any_eq_true]
  constructor
  · rintro ⟨⟨name, value⟩, hmem, hvalue⟩
    obtain rfl := of_decide_eq_true hvalue
    exact ⟨name, hmem⟩
  · rintro ⟨name, hmem⟩
    exact ⟨(name, value), hmem, decide_eq_true rfl⟩

/-- Asking for the value of a name gives the value that the name has. -/
theorem valueOf_eq_ok_iff : e.valueOf name = .ok value ↔ e.value? name = some value := by
  unfold valueOf
  cases e.value? name <;> simp

/-- Asking for the value of a name fails, with that name, if the name has none. -/
theorem valueOf_eq_error_iff {fault : LookupFault} :
    e.valueOf name = .error fault ↔ fault = .noValue name ∧ e.value? name = none := by
  unfold valueOf
  cases e.value? name <;> simp [eq_comm]

/-- A value that is paired with a name has that name. -/
theorem nameOf_of_mem (h : (name, value) ∈ e.entries) (otherwise : Option Text) :
    e.nameOf value otherwise = .ok name := by
  rw [nameOf, name?_eq_some_iff.mpr h, Option.some_or]

/-- The pairs of an enumeration are the ones that it answers by. -/
theorem mutuallyInverse_entries (e : Enumeration) :
    e.MutuallyInverse fun name value => (name, value) ∈ e.entries where
  contains_iff _ := contains_iff_exists_mem
  name_unique value name other h h' := by
    rw [← name?_eq_some_iff] at h h'
    exact Option.some.inj (h.symm.trans h')
  nameOf_of_defined _ _ otherwise h := nameOf_of_mem h otherwise
  valueOf_eq_ok_iff _ _ := valueOf_eq_ok_iff.trans value?_eq_some_iff
  valueOf_eq_error_iff name fault := by
    rw [valueOf_eq_error_iff, Option.eq_none_iff_forall_ne_some]
    simp only [ne_eq, value?_eq_some_iff, not_and, not_not]
  nameOf_valueOf name value otherwise h :=
    nameOf_of_mem (value?_eq_some_iff.mp (valueOf_eq_ok_iff.mp h)).1 otherwise
  valueOf_nameOf value otherwise h := by
    obtain ⟨name, hmem⟩ := contains_iff_exists_mem.mp h
    refine ⟨name, nameOf_of_mem hmem otherwise, fun hreserved => ?_⟩
    exact valueOf_eq_ok_iff.mpr (value?_eq_some_iff.mpr ⟨hmem, hreserved⟩)
  nameOf_of_not_contains value h := by
    have hnone : e.name? value = none := by
      rw [Option.eq_none_iff_forall_ne_some]
      exact fun name hname => h (contains_iff_exists_mem.mpr ⟨name, name?_eq_some_iff.mp hname⟩)
    unfold nameOf
    rw [hnone]
    exact ⟨fun name => rfl, rfl⟩

/-- The pairs of an enumeration that entries make are those that they define. -/
theorem mem_entries_iff_defines {title : Text} {entries : List Entry}
    (h : ofEntries title entries = .ok e) :
    (name, value) ∈ e.entries ↔ Defines entries name value := by
  obtain ⟨-, hentries⟩ := ofEntries_eq_ok_iff.mp h
  rw [hentries, number_eq_mapIdx, List.mem_iff_getElem?]
  refine exists_congr fun i => ?_
  rw [names, List.getElem?_mapIdx, List.getElem?_map]
  cases entries[i]? <;> simp

/-- An enumeration that entries make answers by the pairs that they define: values find names and
names find values, and one look-up undoes the other. -/
theorem ofEntries_mutuallyInverse {title : Text} {entries : List Entry} {e : Enumeration}
    (h : ofEntries title entries = .ok e) : e.MutuallyInverse (Defines entries) := by
  have hdefined : (fun name value => (name, value) ∈ e.entries) = Defines entries :=
    funext₂ fun name value => propext (mem_entries_iff_defines h)
  rw [← hdefined]
  exact mutuallyInverse_entries e

/-- A reserved name, an empty one, and values that fall below those before them. -/
theorem ofEntries_mutuallyInverse_reserved :
    let entries : List Entry :=
      [⟨Text.ofString "FIRST", some 7⟩, ⟨Text.ofString "__next", none⟩, ⟨[], some (-1)⟩,
        ⟨Text.ofString "LAST", none⟩]
    let e : Enumeration := {
      title := Text.ofString "Mixed"
      entries :=
        [(Text.ofString "FIRST", 7), (Text.ofString "__next", 8), ([], -1),
          (Text.ofString "LAST", 0)]
      names_nodup := by decide
      values_nodup := by decide }
    ofEntries (Text.ofString "Mixed") entries = .ok e ∧ e.MutuallyInverse (Defines entries) :=
  ⟨ofEntries_eq_ok_iff.mpr ⟨rfl, rfl⟩,
    ofEntries_mutuallyInverse (ofEntries_eq_ok_iff.mpr ⟨rfl, rfl⟩)⟩

end NameOutputs.Enumeration
