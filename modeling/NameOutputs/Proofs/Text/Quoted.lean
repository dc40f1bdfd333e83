import NameOutputs.Proofs.Text.Numeral
import NameOutputs.Text.Quoted

/-!
# Quoted texts are told apart

A text in quotation marks is followed by anything, and still it is clear where it ends and what it
is. `Quoted.readFront?` reads one code point off the front of what is written between the marks: a
backslash is followed by a letter that tells how many digits are left to read, if any. Whichever of
the two marks is in use, it reads back what `Quoted.escape` wrote (`readFront?_escape`), so two
texts that are written alike are alike, code point by code point (`flatMap_escape_inj`).

The mark in use depends on the text, but it stands in front, so it need not be guessed
(`quoted_append_inj`). A list of texts is then read text by text, and each is followed by a comma or
a bracket that tells whether the list goes on (`quotedList_injective`). A text of ordinary
characters stands between the marks as it is (`quoted_of_isPlain`).
-/

namespace NameOutputs

namespace Quoted

/-- The number of digits that the letter behind a backslash announces, if it announces any. -/
def width? (letter : CodePoint) : Option Nat :=
  if letter = .ofChar 'x' then some 2
  else if letter = .ofChar 'u' then some 4
  else if letter = .ofChar 'U' then some 8
  else none

/-- The code point that a letter behind a backslash stands for if it announces no digits. -/
def letterCode (letter : CodePoint) : Nat :=
  if letter = .ofChar 't' then 0x09
  else if letter = .ofChar 'n' then 0x0A
  else if letter = .ofChar 'r' then 0x0D
  else letter.code

/-- The code point that is written in front, and what stands behind it. -/
def readFront? : Text → Option (Nat × Text)
  | [] => none
  | c :: t =>
    if c = backslash then
      match t with
      | [] => none
      | letter :: t =>
        match width? letter with
        | some width => some (Text.numberOf 0x10 (t.take width), t.drop width)
        | none => some (letterCode letter, t)
    else some (c.code, t)

/-- One of the two quotation marks. -/
def IsMark (mark : CodePoint) : Prop :=
  mark = apostrophe ∨ mark = doubleMark

/-- The mark that a text is quoted with is a quotation mark. -/
theorem isMark_mark (t : Text) : IsMark (mark t) := by
  unfold mark
  split
  · exact .inr rfl
  · exact .inl rfl

variable {mark : CodePoint}

/-- What does not begin with a backslash is read as one code point. -/
theorem readFront?_of_ne {c : CodePoint} (h : c ≠ backslash) (t : Text) :
    readFront? (c :: t) = some (c.code, t) :=
  if_neg h

/-- A code point that is written by its number is read back. -/
theorem readFront?_numbered {letter : CodePoint} {width n : Nat}
    (hwidth : width? letter = some width) (hn : n < 0x10 ^ width) (rest : Text) :
    readFront? (backslash :: letter :: (Text.paddedHex width n ++ rest)) = some (n, rest) := by
  have hlength := Text.length_paddedHex width n
  rw [readFront?, if_pos rfl]
  simp only [hwidth]
  rw [List.take_left' hlength, List.drop_left' hlength, Text.numberOf_paddedHex hn]

/-- What is written between marks is read back. -/
theorem readFront?_escape (hmark : IsMark mark) (c : CodePoint) (rest : Text) :
    readFront? (escape mark c ++ rest) = some (c.code, rest) := by
  unfold escape
  split
  · next h =>
    rcases h with rfl | rfl
    · rcases hmark with rfl | rfl <;> rfl
    · rfl
  next hplain =>
  split
  · next h => rw [h]; rfl
  split
  · next h => rw [h]; rfl
  split
  · next h => rw [h]; rfl
  split
  · exact readFront?_of_ne (fun h => hplain (.inr h)) rest
  unfold numbered
  split
  · next h => exact readFront?_numbered rfl h rest
  split
  · next h => exact readFront?_numbered rfl h rest
  · exact readFront?_numbered rfl (Nat.lt_trans c.code_lt (by decide)) rest

/-- No code point is written with the mark in front. -/
theorem escape_ne_mark_cons (hmark : IsMark mark) (c : CodePoint) (t rest : Text) :
    escape mark c ++ t ≠ mark :: rest := by
  intro h
  have hne : mark ≠ backslash := by rcases hmark with rfl | rfl <;> decide
  -- It would be the mark that is read, and that is written behind a backslash.
  have hread := congrArg readFront? h
  rw [readFront?_escape hmark, readFront?_of_ne hne, Option.some.injEq, Prod.mk.injEq] at hread
  obtain rfl := CodePoint.ext hread.1
  rw [escape, if_pos (.inl rfl)] at h
  exact hne (List.cons.inj h).1.symm

/-- What is written up to the mark that ends it determines the text, and where it ends. -/
theorem flatMap_escape_inj (hmark : IsMark mark) {t t' rest rest' : Text}
    (h : t.flatMap (escape mark) ++ mark :: rest = t'.flatMap (escape mark) ++ mark :: rest') :
    t = t' ∧ rest = rest' := by
  induction t generalizing t' with
  | nil =>
    cases t' with
    | nil => exact ⟨rfl, (List.cons.inj h).2⟩
    | cons c' t' =>
      rw [List.flatMap_cons, List.append_assoc] at h
      exact absurd h.symm (escape_ne_mark_cons hmark c' _ _)
  | cons c t ih =>
    cases t' with
    | nil =>
      rw [List.flatMap_cons, List.append_assoc] at h
      exact absurd h (escape_ne_mark_cons hmark c _ _)
    | cons c' t' =>
      have hread := congrArg readFront? h
      rw [List.flatMap_cons, List.flatMap_cons, List.append_assoc, List.append_assoc,
        readFront?_escape hmark, readFront?_escape hmark, Option.some.injEq, Prod.mk.injEq] at hread
      obtain ⟨hcode, hbehind⟩ := hread
      obtain ⟨rfl, hrest⟩ := ih hbehind
      exact ⟨congrArg (· :: t) (CodePoint.ext hcode), hrest⟩

end Quoted

namespace Text

/-- A quoted text is its escaped code points between two marks. -/
theorem quoted_append (t rest : Text) :
    t.quoted ++ rest =
      Quoted.mark t :: (t.flatMap (Quoted.escape (Quoted.mark t)) ++ Quoted.mark t :: rest) := by
  simp [quoted]

/-- A quoted text tells where it ends, and what it is. -/
theorem quoted_append_inj {t t' rest rest' : Text} (h : t.quoted ++ rest = t'.quoted ++ rest') :
    t = t' ∧ rest = rest' := by
  rw [quoted_append, quoted_append] at h
  obtain ⟨hmark, hbody⟩ := List.cons.inj h
  rw [← hmark] at hbody
  exact Quoted.flatMap_escape_inj (Quoted.isMark_mark t) hbody

/-! ## Lists -/

/-- What stands behind the first of quoted texts up to the end of the list. -/
def quotedBehind (ts : List Text) : Text :=
  ts.flatMap (fun t => ofString ", " ++ t.quoted) ++ ofString "]"

/-- A quoted list begins with its first text. -/
theorem quotedList_cons (t : Text) (ts : List Text) :
    quotedList (t :: ts) = ofString "[" ++ (t.quoted ++ quotedBehind ts) := by
  have hjoin : ∀ t : Text, (ofString ", ").intercalate ((t :: ts).map quoted) =
      t.quoted ++ ts.flatMap fun t => ofString ", " ++ t.quoted := by
    induction ts with
    | nil => intro t; simp
    | cons t' ts ih =>
      intro t
      rw [List.map_cons, List.map_cons, List.intercalate_cons_cons, ← List.map_cons, ih,
        List.flatMap_cons, List.append_assoc, List.append_assoc]
  rw [quotedList, hjoin, quotedBehind, List.append_assoc, List.append_assoc]

/-- Behind a text, a comma or a bracket tells whether another one follows. -/
theorem quotedBehind_injective {ts ts' : List Text} (h : quotedBehind ts = quotedBehind ts') :
    ts = ts' := by
  have hne : CodePoint.ofChar ',' ≠ .ofChar ']' := by decide
  induction ts generalizing ts' with
  | nil =>
    cases ts' with
    | nil => rfl
    | cons t' ts' => exact absurd (List.cons.inj h).1.symm hne
  | cons t ts ih =>
    cases ts' with
    | nil => exact absurd (List.cons.inj h).1 hne
    | cons t' ts' =>
      simp only [quotedBehind, List.flatMap_cons, List.append_assoc] at h
      obtain ⟨rfl, hbehind⟩ := quoted_append_inj (List.append_cancel_left h)
      rw [ih hbehind]

/-- Behind the first bracket, a bracket or a quotation mark tells whether a text follows. -/
theorem quotedList_nil_ne_cons (t : Text) (ts : List Text) :
    quotedList [] ≠ quotedList (t :: ts) := by
  intro h
  rw [quotedList_cons, quoted_append] at h
  have hmark : CodePoint.ofChar ']' = Quoted.mark t := (List.cons.inj (List.append_cancel_left h)).1
  rcases Quoted.isMark_mark t with hm | hm
  · exact absurd (hmark.trans hm) (by decide)
  · exact absurd (hmark.trans hm) (by decide)

/-- A list of quoted texts is determined by how it is written. -/
theorem quotedList_injective {ts ts' : List Text} (h : quotedList ts = quotedList ts') :
    ts = ts' := by
  cases ts with
  | nil =>
    cases ts' with
    | nil => rfl
    | cons t' ts' => exact absurd h (quotedList_nil_ne_cons t' ts')
  | cons t ts =>
    cases ts' with
    | nil => exact absurd h.symm (quotedList_nil_ne_cons t ts)
    | cons t' ts' =>
      rw [quotedList_cons, quotedList_cons] at h
      obtain ⟨rfl, hbehind⟩ := quoted_append_inj (List.append_cancel_left h)
      rw [quotedBehind_injective hbehind]

end Text

/-! ## Texts that stand as they are -/

/-- The code point is printable ASCII, and neither a quotation mark nor the backslash. -/
def CodePoint.IsPlain (c : CodePoint) : Prop :=
  0x20 ≤ c.code ∧ c.code < 0x7F ∧
    c ≠ Quoted.apostrophe ∧ c ≠ Quoted.doubleMark ∧ c ≠ Quoted.backslash

instance : DecidablePred CodePoint.IsPlain :=
  fun _ => inferInstanceAs (Decidable (_ ∧ _))

/-- Plain characters are printable. -/
theorem CodePoint.IsPlain.isPrintable {c : CodePoint} (h : c.IsPlain) : c.isPrintable = true := by
  have hascii : ∀ n < 0x7F, 0x20 ≤ n →
      (!Printable.excluded.any (Printable.inRanges n)) = true := by decide +kernel
  exact hascii c.code h.2.1 h.1

/-- Between apostrophes, what is plain is written as itself. -/
theorem Quoted.escape_of_isPlain {c : CodePoint} (h : c.IsPlain) : escape apostrophe c = [c] := by
  have hprintable := h.isPrintable
  obtain ⟨hge, -, hapostrophe, -, hbackslash⟩ := h
  rw [escape, if_neg (not_or_intro hapostrophe hbackslash), if_neg (by omega), if_neg (by omega),
    if_neg (by omega), if_pos hprintable]

/-- A plain text stands between apostrophes as it is. -/
theorem Text.quoted_of_isPlain {t : Text} (h : ∀ c ∈ t, c.IsPlain) :
    t.quoted = ofString "'" ++ t ++ ofString "'" := by
  have hmark : Quoted.mark t = Quoted.apostrophe :=
    if_neg fun hc => (h _ hc.1).2.2.1 rfl
  have hbody : t.flatMap (Quoted.escape Quoted.apostrophe) = t := by
    rw [List.flatMap_def, List.map_congr_left fun c hc => Quoted.escape_of_isPlain (h c hc),
      ← List.flatMap_def, List.flatMap_singleton']
  rw [quoted, hmark, hbody]
  rfl

end NameOutputs
