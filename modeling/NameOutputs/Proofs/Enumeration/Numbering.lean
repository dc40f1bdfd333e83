import Mathlib.Data.List.Nodup
import Mathlib.Order.Nat
import NameOutputs.Enumeration

/-!
# What the entries of an enumeration make

An entry takes its own value or goes on from the entry before it, so values may fall back into a
range that is used already. `valueAt` gives the value of the entry at an index, and it is read off
the last entry that sets one (`valueAt_of_setAt?`). `ofEntries_fails_at_first_repeat` shows that the
entries make an enumeration exactly if no name and no value stands twice, that the enumeration holds
each name with its value, and that otherwise the first entry that repeats something is the one
complained of.

The search for a duplicate carries what it has seen. Up to an index it finds nothing exactly if
nothing is repeated there (`duplicate?_take_eq_none_iff`), and it goes on behind that index with all
pairs in front of it seen (`duplicate?_append`). So at the least index at which something is
repeated it stops (`duplicate?_of_isLeast`).
-/

namespace NameOutputs.Enumeration

/-- The value that the entry at an index sets. -/
def setAt? (entries : List Entry) (i : Nat) : Option Int :=
  entries[i]?.bind Entry.value?

/-- The value of the entry at an index: the one that it sets, or else the one after that of the
entry before it, which for the first entry is `next`. -/
def valueAt (next : Int) (entries : List Entry) : Nat → Int
  | 0 => (setAt? entries 0).getD next
  | i + 1 => (setAt? entries (i + 1)).getD (valueAt next entries i + 1)

/-- The names of the entries. -/
def names (entries : List Entry) : List Text :=
  entries.map Entry.name

/-- The values of the entries. -/
def values (entries : List Entry) : List Int :=
  entries.mapIdx fun i _ => valueAt 0 entries i

/-- What stands at an index stands at one before it, too. -/
def RepeatsAt {α : Type} (l : List α) (j : Nat) : Prop :=
  ∃ i < j, ∃ a, l[i]? = some a ∧ l[j]? = some a

/-- The indices at which a name or a value is repeated. -/
def repeats (entries : List Entry) : Set Nat :=
  {j | RepeatsAt (names entries) j ∨ RepeatsAt (values entries) j}

/-- What is wrong with the entry at an index at which something is repeated: its name is taken, or
it is not and its value is. -/
inductive Complaint (entries : List Entry) (j : Nat) : Duplicate → Prop
  /-- The name stands before. -/
  | name {name : Text} : (names entries)[j]? = some name → RepeatsAt (names entries) j →
    Complaint entries j (.name name)
  /-- The value stands before, and the name does not. -/
  | value {name : Text} : (names entries)[j]? = some name → ¬ RepeatsAt (names entries) j →
    RepeatsAt (values entries) j → Complaint entries j (.value name)

/-! ## Values -/

/-- An entry that sets no value goes on from the last one that does. -/
theorem valueAt_of_setAt? {next value : Int} {entries : List Entry} {k i : Nat} (hki : k ≤ i)
    (hset : setAt? entries k = some value)
    (hnone : ∀ j, k < j → j ≤ i → setAt? entries j = none) :
    valueAt next entries i = value + (i - k : Nat) := by
  induction i, hki using Nat.le_induction with
  | base =>
    rw [Nat.sub_self, Int.natCast_zero, Int.add_zero]
    cases k <;> rw [valueAt, hset, Option.getD_some]
  | succ i hki ih =>
    have hi := ih fun j hkj hji => hnone j hkj (Nat.le_succ_of_le hji)
    rw [valueAt, hnone (i + 1) (by omega) le_rfl, Option.getD_none, hi]
    omega

/-- If no entry up to an index sets a value, they count from `next`. -/
theorem valueAt_of_forall_setAt?_eq_none {next : Int} {entries : List Entry} {i : Nat}
    (hnone : ∀ j ≤ i, setAt? entries j = none) : valueAt next entries i = next + i := by
  induction i with
  | zero => rw [valueAt, hnone 0 le_rfl, Option.getD_none, Int.natCast_zero, Int.add_zero]
  | succ i ih =>
    have hi := ih fun j hji => hnone j (Nat.le_succ_of_le hji)
    rw [valueAt, hnone (i + 1) le_rfl, Option.getD_none, hi]
    omega

/-- Behind the first entry, values are as if the entries started there. -/
theorem valueAt_cons_succ (next : Int) (entry : Entry) (rest : List Entry) (i : Nat) :
    valueAt next (entry :: rest) (i + 1) = valueAt (entry.value?.getD next + 1) rest i := by
  induction i with
  | zero => rfl
  | succ i ih =>
    rw [valueAt, ih, valueAt]
    rfl

/-- Numbering pairs the name of each entry with its value. -/
theorem number_eq_mapIdx (next : Int) (entries : List Entry) :
    number next entries = entries.mapIdx fun i entry => (entry.name, valueAt next entries i) := by
  induction entries generalizing next with
  | nil => rfl
  | cons entry rest ih =>
    rw [number, ih, List.mapIdx_cons]
    simp only [valueAt_cons_succ]
    rfl

/-- Numbering keeps the number of entries. -/
theorem length_number (next : Int) (entries : List Entry) :
    (number next entries).length = entries.length := by
  rw [number_eq_mapIdx, List.length_mapIdx]

/-- The numbers are the values that the rule gives the entries. -/
theorem map_snd_number (entries : List Entry) :
    (number 0 entries).map Prod.snd = values entries := by
  refine List.ext_getElem? fun i => ?_
  rw [values, number_eq_mapIdx, List.getElem?_map, List.getElem?_mapIdx, List.getElem?_mapIdx,
    Option.map_map]
  rfl

/-! ## Repetitions -/

section RepeatsAt

variable {α : Type} {l : List α}

/-- A list has no duplicates up to an index if no element up to there repeats one. -/
theorem nodup_take_iff {n : Nat} : (l.take n).Nodup ↔ ∀ j < n, ¬ RepeatsAt l j := by
  rw [List.nodup_iff_getElem?_ne_getElem?, List.length_take]
  constructor
  · rintro h j hjn ⟨i, hij, a, hi, hj⟩
    obtain ⟨hlt, -⟩ := List.getElem?_eq_some_iff.mp hj
    apply h i j hij (by omega)
    rw [List.getElem?_take_of_lt (by omega), List.getElem?_take_of_lt hjn, hi, hj]
  · intro h i j hij hj heq
    rw [List.getElem?_take_of_lt (by omega), List.getElem?_take_of_lt (by omega)] at heq
    have hlt : j < l.length := by omega
    refine h j (by omega) ⟨i, hij, l[j], ?_, List.getElem?_eq_getElem hlt⟩
    rw [heq, List.getElem?_eq_getElem hlt]

/-- An element repeats one if it is among those before it. -/
theorem mem_take_iff_repeatsAt {a : α} {j : Nat} (h : l[j]? = some a) :
    a ∈ l.take j ↔ RepeatsAt l j := by
  rw [List.mem_iff_getElem?]
  constructor
  · rintro ⟨i, hi⟩
    obtain ⟨hlt, -⟩ := List.getElem?_eq_some_iff.mp hi
    rw [List.length_take] at hlt
    rw [List.getElem?_take_of_lt (by omega)] at hi
    exact ⟨i, by omega, a, hi, h⟩
  · rintro ⟨i, hij, b, hi, hj⟩
    obtain rfl := Option.some.inj (h.symm.trans hj)
    exact ⟨i, by rw [List.getElem?_take_of_lt hij, hi]⟩

end RepeatsAt

/-! ## The search for a duplicate -/

/-- The search finds nothing in pairs exactly if no name and no value stands twice. -/
theorem duplicate?_nil_eq_none_iff {pairs : List (Text × Int)} :
    duplicate? [] pairs = none ↔ (pairs.map Prod.fst).Nodup ∧ (pairs.map Prod.snd).Nodup := by
  rw [duplicate?_eq_none_iff]
  simp only [List.map_nil, List.not_mem_nil, not_false_eq_true, implies_true, and_true]

/-- The search finds nothing up to an index exactly if nothing is repeated up to there. -/
theorem duplicate?_take_eq_none_iff {entries : List Entry} {n : Nat} :
    duplicate? [] ((number 0 entries).take n) = none ↔ ∀ j < n, j ∉ repeats entries := by
  rw [duplicate?_nil_eq_none_iff, List.map_take, List.map_take, map_fst_number, map_snd_number,
    nodup_take_iff, nodup_take_iff]
  constructor
  · rintro ⟨hnames, hvalues⟩ j hj (h | h)
    · exact hnames j hj h
    · exact hvalues j hj h
  · intro h
    exact ⟨fun j hj hj' => h j hj (.inl hj'), fun j hj hj' => h j hj (.inr hj')⟩

/-- Behind pairs without a duplicate, the search goes on with these seen. -/
theorem duplicate?_append {seen front : List (Text × Int)} (h : duplicate? seen front = none)
    (back : List (Text × Int)) :
    duplicate? seen (front ++ back) = duplicate? (front.reverse ++ seen) back := by
  induction front generalizing seen with
  | nil => rfl
  | cons pair front ih =>
    obtain ⟨name, value⟩ := pair
    rw [duplicate?] at h
    split at h
    · cases h
    · next hname =>
      split at h
      · cases h
      · next hvalue =>
        rw [List.cons_append, duplicate?, if_neg hname, if_neg hvalue, ih h, List.reverse_cons,
          List.append_assoc, List.singleton_append]

/-- A repeat is the index of an entry. -/
theorem lt_length_of_mem_repeats {entries : List Entry} {j : Nat} (h : j ∈ repeats entries) :
    j < (number 0 entries).length := by
  rw [length_number]
  rcases h with ⟨_, -, _, -, hj⟩ | ⟨_, -, _, -, hj⟩
  · simpa [names] using (List.getElem?_eq_some_iff.mp hj).1
  · simpa [values] using (List.getElem?_eq_some_iff.mp hj).1

/-- If nothing is repeated up to an index, the search comes to the pair there with all pairs before
it seen. -/
theorem duplicate?_eq_of_not_repeats {entries : List Entry} {j : Nat}
    (hnone : ∀ i < j, i ∉ repeats entries) (hlt : j < (number 0 entries).length) :
    duplicate? [] (number 0 entries) =
      duplicate? ((number 0 entries).take j).reverse
        ((number 0 entries)[j] :: (number 0 entries).drop (j + 1)) := by
  conv_lhs => rw [← List.take_append_drop j (number 0 entries)]
  rw [duplicate?_append (duplicate?_take_eq_none_iff.mpr hnone), List.append_nil,
    List.drop_eq_getElem_cons hlt]

/-- The search stops at the first index at which something is repeated. -/
theorem duplicate?_of_isLeast {entries : List Entry} {j : Nat} (h : IsLeast (repeats entries) j) :
    ∃ found, duplicate? [] (number 0 entries) = some found ∧ Complaint entries j found := by
  obtain ⟨hrepeats, hleast⟩ := h
  have hnone : ∀ i < j, i ∉ repeats entries :=
    fun i hij hi => absurd (hleast hi) (Nat.not_le_of_lt hij)
  have hlt := lt_length_of_mem_repeats hrepeats
  rw [duplicate?_eq_of_not_repeats hnone hlt]
  rcases hpair : (number 0 entries)[j] with ⟨name, value⟩
  have hget : (number 0 entries)[j]? = some (name, value) := by
    rw [List.getElem?_eq_getElem hlt, hpair]
  have hname : (names entries)[j]? = some name := by
    rw [names, ← map_fst_number 0, List.getElem?_map, hget, Option.map_some]
  have hvalue : (values entries)[j]? = some value := by
    rw [← map_snd_number, List.getElem?_map, hget, Option.map_some]
  have hnameSeen : name ∈ ((number 0 entries).take j).reverse.map Prod.fst ↔
      RepeatsAt (names entries) j := by
    rw [List.map_reverse, List.mem_reverse, List.map_take, map_fst_number]
    exact mem_take_iff_repeatsAt hname
  have hvalueSeen : value ∈ ((number 0 entries).take j).reverse.map Prod.snd ↔
      RepeatsAt (values entries) j := by
    rw [List.map_reverse, List.mem_reverse, List.map_take, map_snd_number]
    exact mem_take_iff_repeatsAt hvalue
  rw [duplicate?]
  by_cases htaken : RepeatsAt (names entries) j
  · exact ⟨.name name, if_pos (hnameSeen.mpr htaken), .name hname htaken⟩
  · have hvalueTaken := hrepeats.resolve_left htaken
    refine ⟨.value name, ?_, .value hname htaken hvalueTaken⟩
    rw [if_neg (mt hnameSeen.mp htaken), if_pos (hvalueSeen.mpr hvalueTaken)]

/-- At each index there is one complaint at most. -/
theorem Complaint.eq {entries : List Entry} {j : Nat} {found other : Duplicate}
    (h : Complaint entries j found) (h' : Complaint entries j other) : found = other := by
  cases h with
  | name hname htaken =>
    cases h' with
    | name hname' => rw [Option.some.inj (hname.symm.trans hname')]
    | value _ hfree => exact absurd htaken hfree
  | value hname hfree =>
    cases h' with
    | name _ htaken => exact absurd htaken hfree
    | value hname' => rw [Option.some.inj (hname.symm.trans hname')]

/-- The search finds what is wrong at the first index at which something is repeated, and nothing
else. -/
theorem duplicate?_eq_some_iff {entries : List Entry} {found : Duplicate} :
    duplicate? [] (number 0 entries) = some found ↔
      ∃ j, IsLeast (repeats entries) j ∧ Complaint entries j found := by
  constructor
  · intro h
    have hrepeats : (repeats entries).Nonempty := by
      by_contra hempty
      have hnone : duplicate? [] ((number 0 entries).take (number 0 entries).length) = none :=
        duplicate?_take_eq_none_iff.mpr fun j _ hj => hempty ⟨j, hj⟩
      rw [List.take_length, h] at hnone
      cases hnone
    classical
    have hleast := hrepeats.isLeast_natFind
    obtain ⟨first, hfirst, hcomplaint⟩ := duplicate?_of_isLeast hleast
    obtain rfl := Option.some.inj (h.symm.trans hfirst)
    exact ⟨_, hleast, hcomplaint⟩
  · rintro ⟨j, hleast, hcomplaint⟩
    obtain ⟨first, hfirst, hcomplaint'⟩ := duplicate?_of_isLeast hleast
    rw [hfirst, hcomplaint.eq hcomplaint']

/-! ## Construction -/

/-- An enumeration is made of the entries exactly if it holds what numbering them gives. -/
theorem ofEntries_eq_ok_iff {title : Text} {entries : List Entry} {e : Enumeration} :
    ofEntries title entries = .ok e ↔ e.title = title ∧ e.entries = number 0 entries := by
  obtain ⟨title', pairs, hnames, hvalues⟩ := e
  unfold ofEntries
  split
  · next found hfound =>
    refine iff_of_false nofun ?_
    rintro ⟨-, rfl⟩
    rw [duplicate?_nil_eq_none_iff.mpr ⟨hnames, hvalues⟩] at hfound
    cases hfound
  · rw [Except.ok.injEq, mk.injEq]
    exact and_congr eq_comm eq_comm

/-- Making an enumeration of the entries fails with what the search finds. -/
theorem ofEntries_eq_error_iff {title : Text} {entries : List Entry} {found : Duplicate} :
    ofEntries title entries = .error found ↔ duplicate? [] (number 0 entries) = some found := by
  unfold ofEntries
  split
  · next first hfirst => rw [hfirst, Except.error.injEq, Option.some.injEq]
  · next hnone => exact iff_of_false nofun fun h => nomatch hnone.symm.trans h

/-- The value at an index is the last one that is set up to there, counted on, or the index itself
if none is set. The entries make an enumeration exactly if no name and no value stands twice, and it
then holds each name with its value, in order. Otherwise the first entry whose name or value stands
before it is complained of: for its name if that does, and for its value only if its name does
not. -/
theorem ofEntries_fails_at_first_repeat (title : Text) (entries : List Entry) :
    (∀ i,
      (∀ k value, k ≤ i → setAt? entries k = some value →
        (∀ j, k < j → j ≤ i → setAt? entries j = none) →
          valueAt 0 entries i = value + (i - k : Nat)) ∧
      ((∀ j ≤ i, setAt? entries j = none) → valueAt 0 entries i = i)) ∧
    ((∃ e, ofEntries title entries = .ok e) ↔ (names entries).Nodup ∧ (values entries).Nodup) ∧
    (∀ e, ofEntries title entries = .ok e →
      e.title = title ∧ e.entries = (names entries).zip (values entries) ∧
        e.size = entries.length) ∧
    ∀ found, ofEntries title entries = .error found ↔
      ∃ j, IsLeast (repeats entries) j ∧ Complaint entries j found := by
  refine ⟨fun i => ⟨fun k value hki hset hnone => ?_, fun hnone => ?_⟩, ?_, ?_, ?_⟩
  · exact valueAt_of_setAt? hki hset hnone
  · rw [valueAt_of_forall_setAt?_eq_none hnone, Int.zero_add]
  · rw [names, ← map_fst_number 0, ← map_snd_number]
    constructor
    · rintro ⟨e, he⟩
      obtain ⟨-, hentries⟩ := ofEntries_eq_ok_iff.mp he
      rw [← hentries]
      exact ⟨e.names_nodup, e.values_nodup⟩
    · rintro ⟨hnames, hvalues⟩
      exact ⟨⟨title, number 0 entries, hnames, hvalues⟩, ofEntries_eq_ok_iff.mpr ⟨rfl, rfl⟩⟩
  · intro e he
    obtain ⟨htitle, hentries⟩ := ofEntries_eq_ok_iff.mp he
    refine ⟨htitle, ?_, ?_⟩
    · rw [hentries]
      exact List.zip_of_prod (map_fst_number 0 entries) (map_snd_number entries)
    · rw [size, hentries, length_number]
  · intro found
    rw [ofEntries_eq_error_iff, duplicate?_eq_some_iff]

/-- The third entry counts up to the value of the first. -/
example : ofEntries [] [⟨Text.ofString "A", some 2⟩, ⟨Text.ofString "B", some 1⟩,
    ⟨Text.ofString "C", none⟩] = .error (.value (Text.ofString "C")) := rfl

end NameOutputs.Enumeration
