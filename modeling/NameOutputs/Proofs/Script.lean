import Mathlib.Data.List.Forall2
import NameOutputs.Proofs.Enumeration.Lookup
import NameOutputs.Proofs.Text.Hex
import NameOutputs.Proofs.Text.Quoted
import NameOutputs.Script.Render

/-!
# What the text of a script tells of it

A script is shown as one word for each instruction. `Script.render_tells_all_but_long_data` shows
that this tells everything about the script but the middle of long data and the data of instructions
that do not push any, and that a pair of scripts is shown as the text of its locking script between
apostrophes.

Words are separated by spaces, which stand in none of them (`Instruction.isPlain_of_mem_render`), so
the words can be told apart (`Text.intercalate_inj`). A word is told by its marks: only pushed data
have a colon, and only an opcode without a name has an underscore. So opcodes are told apart by
their words (`Opcode.shown_injective`), and instructions by theirs up to what is shown of their data
(`Instruction.word_eq_iff`).
-/

namespace NameOutputs

/-- The space between words. -/
abbrev CodePoint.space : CodePoint := .ofChar ' '

/-- The mark between an opcode and its data. -/
abbrev CodePoint.colon : CodePoint := .ofChar ':'

/-- The mark before the number of an opcode without a name. -/
abbrev CodePoint.underscore : CodePoint := .ofChar '_'

/-- The code point is plain, and neither separates words nor divides one. -/
def CodePoint.IsWordCharacter (c : CodePoint) : Prop :=
  c.IsPlain ∧ c ≠ space ∧ c ≠ colon

instance : DecidablePred CodePoint.IsWordCharacter :=
  fun _ => inferInstanceAs (Decidable (_ ∧ _))

/-- The instructions have the same opcode and, if they push data, show the same of them. -/
def Instruction.LooksLike (i j : Instruction) : Prop :=
  i.opcode = j.opcode ∧
    (i.opcode ≤ Opcode.pushData4 → i.data.map Bytes.shortHex = j.data.map Bytes.shortHex)

/-! ## Words -/

/-- Digits are characters of words. -/
theorem CodePoint.IsDigit.isWordCharacter {c : CodePoint} (h : c.IsDigit) : c.IsWordCharacter := by
  obtain ⟨k, hk, rfl⟩ := h
  have hdigits : ∀ k < 16, (CodePoint.ofChar (Nat.digitChar k)).IsWordCharacter := by decide
  exact hdigits k hk

namespace Text

/-- A decimal numeral consists of characters of words. -/
theorem isWordCharacter_of_mem_decimal {n : Int} {c : CodePoint} (hc : c ∈ decimal n) :
    c.IsWordCharacter := by
  rcases isDigit_of_mem_decimal hc with hdigit | rfl
  · exact hdigit.isWordCharacter
  · decide

/-- Abbreviated data consist of characters of words. -/
theorem isWordCharacter_of_mem_shortHex {bs : Bytes} {c : CodePoint} (hc : c ∈ bs.shortHex) :
    c.IsWordCharacter := by
  rcases Bytes.isDigit_of_mem_shortHex hc with hdigit | rfl
  · exact hdigit.isWordCharacter
  · decide

/-- Words between marks that stand in none of them are told apart. -/
theorem intercalate_inj {mark : CodePoint} {ts ts' : List Text}
    (hts : ∀ t ∈ ts, t ≠ [] ∧ mark ∉ t) (hts' : ∀ t ∈ ts', t ≠ [] ∧ mark ∉ t)
    (h : [mark].intercalate ts = [mark].intercalate ts') : ts = ts' := by
  have hne : ∀ t : Text, ∀ ts : List Text, t ≠ [] → [mark].intercalate (t :: ts) ≠ [] := by
    intro t ts ht
    cases ts with
    | nil => rwa [List.intercalate_singleton]
    | cons t' ts => simp [List.intercalate_cons_cons, ht]
  cases ts with
  | nil =>
    cases ts' with
    | nil => rfl
    | cons t' ts' => exact absurd h.symm (hne t' ts' (hts' t' List.mem_cons_self).1)
  | cons t ts =>
    cases ts' with
    | nil => exact absurd h (hne t ts (hts t List.mem_cons_self).1)
    | cons t' ts' =>
      have hsplit := congrArg (List.splitOn mark) h
      rwa [List.splitOn_intercalate mark (fun t ht => (hts t ht).2) (List.cons_ne_nil t ts),
        List.splitOn_intercalate mark (fun t ht => (hts' t ht).2) (List.cons_ne_nil t' ts')]
        at hsplit

end Text

/-! ## Opcodes -/

namespace Opcode

/-- The mnemonics of the table. -/
def allMnemonics : List String :=
  mnemonics.flatMap Prod.snd

/-- Mnemonics are words, and have no underscore. In particular, `OP_` stands in front of a name and
nowhere else in it. -/
theorem isWordCharacter_of_mnemonic : ∀ m ∈ allMnemonics,
    Text.ofString m ≠ [] ∧ ∀ c ∈ Text.ofString m, c.IsWordCharacter ∧ c ≠ .underscore := by
  decide +kernel

/-- An opcode is shown by the mnemonic that the table has for it, or else by its number. -/
theorem shown_cases (opcode : Int) :
    (∃ m ∈ allMnemonics, (named m, opcode) ∈ table.entries ∧ shown opcode = Text.ofString m) ∨
      shown opcode = Text.ofString "InvalidOp_" ++ Text.decimal opcode := by
  unfold shown
  cases hname : table.name? opcode with
  | none => exact .inr rfl
  | some name =>
    have hmem : (name, opcode) ∈ table.entries := Enumeration.name?_eq_some_iff.mp hname
    have hnames : table.entries.map Prod.fst = allMnemonics.map named := by
      show (Enumeration.number 0 entries).map Prod.fst = _
      rw [Enumeration.map_fst_number, entries, allMnemonics]
      simp only [List.map_flatMap, map_name_run]
    have hnamed : name ∈ allMnemonics.map named := by
      rw [← hnames]
      exact List.mem_map_of_mem hmem
    obtain ⟨m, hm, rfl⟩ := List.mem_map.mp hnamed
    exact .inl ⟨m, hm, hmem, List.drop_left' rfl⟩

/-- What is shown of an opcode is not empty. -/
theorem shown_ne_nil (opcode : Int) : shown opcode ≠ [] := by
  rcases shown_cases opcode with ⟨m, hm, -, hshown⟩ | hshown
  · rw [hshown]
    exact (isWordCharacter_of_mnemonic m hm).1
  · rw [hshown]
    exact List.cons_ne_nil _ _

/-- What is shown of an opcode consists of characters of words. -/
theorem isWordCharacter_of_mem_shown {opcode : Int} {c : CodePoint} (hc : c ∈ shown opcode) :
    c.IsWordCharacter := by
  rcases shown_cases opcode with ⟨m, hm, -, hshown⟩ | hshown
  · rw [hshown] at hc
    exact ((isWordCharacter_of_mnemonic m hm).2 c hc).1
  · rw [hshown] at hc
    rcases List.mem_append.mp hc with hc | hc
    · have hword : ∀ c ∈ Text.ofString "InvalidOp_", c.IsWordCharacter := by decide
      exact hword c hc
    · exact Text.isWordCharacter_of_mem_decimal hc

/-- Opcodes are told apart by how they are shown. -/
theorem shown_injective {a b : Int} (h : shown a = shown b) : a = b := by
  -- Only an opcode without a name has an underscore.
  have hne : ∀ m ∈ allMnemonics, ∀ n : Int,
      Text.ofString m ≠ Text.ofString "InvalidOp_" ++ Text.decimal n := by
    intro m hm n heq
    have hunderscore : CodePoint.underscore ∈ Text.ofString m := by
      rw [heq]
      exact List.mem_append_left _ (by decide)
    exact ((isWordCharacter_of_mnemonic m hm).2 _ hunderscore).2 rfl
  rcases shown_cases a with ⟨m, hm, hentry, ha⟩ | ha
  · rcases shown_cases b with ⟨m', hm', hentry', hb⟩ | hb
    · obtain rfl := Text.ofString_injective (ha.symm.trans (h.trans hb))
      have hpair := List.inj_on_of_nodup_map table.names_nodup hentry hentry' rfl
      exact (Prod.mk.inj hpair).2
    · exact absurd (ha.symm.trans (h.trans hb)) (hne m hm b)
  · rcases shown_cases b with ⟨m', hm', -, hb⟩ | hb
    · exact absurd (hb.symm.trans (h.symm.trans ha)) (hne m' hm' a)
    · rw [ha, hb] at h
      exact Text.decimal_injective (List.append_cancel_left h)

end Opcode

/-! ## Instructions -/

namespace Instruction

/-- What is shown of the data of an instruction that pushes them. -/
def shownData (i : Instruction) : Option Text :=
  if i.opcode ≤ Opcode.pushData4 then i.data.map Bytes.shortHex else none

/-- The word of an opcode and of what is shown of its data. -/
def word (opcode : Int) : Option Text → Text
  | some hex => Text.decimal opcode ++ .colon :: hex
  | none => Opcode.shown opcode

/-- An instruction is rendered as the word of its opcode and of the data that it shows. -/
theorem render_eq_word (i : Instruction) : i.render = word i.opcode i.shownData := by
  obtain ⟨opcode, data⟩ := i
  unfold render shownData pushesData
  by_cases hpush : opcode ≤ Opcode.pushData4
  · cases data with
    | none => simp only [hpush, if_true, Option.map_none, word]
    | some data =>
      simp only [hpush, decide_true, if_true, Option.map_some, word, List.append_assoc]
      rfl
  · cases data <;> simp only [hpush, decide_false, Bool.false_eq_true, if_false, word]

/-- Instructions look alike if they have the same opcode and show the same data. -/
theorem looksLike_iff {i j : Instruction} :
    i.LooksLike j ↔ i.opcode = j.opcode ∧ i.shownData = j.shownData := by
  refine and_congr_right fun hopcode => ?_
  unfold shownData
  rw [← hopcode]
  by_cases hpush : i.opcode ≤ Opcode.pushData4
  · rw [if_pos hpush, if_pos hpush, imp_iff_right hpush]
  · rw [if_neg hpush, if_neg hpush]
    exact iff_of_true (fun h => absurd h hpush) rfl

/-- The data that an instruction shows consist of characters of words. -/
theorem isWordCharacter_of_mem_shownData {i : Instruction} {hex : Text} (h : i.shownData = some hex)
    {c : CodePoint} (hc : c ∈ hex) : c.IsWordCharacter := by
  unfold shownData at h
  split at h
  · obtain ⟨data, -, rfl⟩ := Option.map_eq_some_iff.mp h
    exact Text.isWordCharacter_of_mem_shortHex hc
  · cases h

/-- No instruction is rendered as nothing. -/
theorem render_ne_nil (i : Instruction) : i.render ≠ [] := by
  rw [render_eq_word]
  cases i.shownData with
  | none => exact Opcode.shown_ne_nil i.opcode
  | some hex => exact List.append_ne_nil_of_right_ne_nil _ (List.cons_ne_nil _ _)

/-- An instruction is rendered in plain characters without a space. -/
theorem isPlain_of_mem_render {i : Instruction} {c : CodePoint} (hc : c ∈ i.render) :
    c.IsPlain ∧ c ≠ .space := by
  rw [render_eq_word] at hc
  have hword : c.IsWordCharacter ∨ c = .colon := by
    cases hshown : i.shownData with
    | none =>
      rw [hshown] at hc
      exact .inl (Opcode.isWordCharacter_of_mem_shown hc)
    | some hex =>
      rw [hshown] at hc
      rcases List.mem_append.mp hc with hopcode | hbehind
      · exact .inl (Text.isWordCharacter_of_mem_decimal hopcode)
      · rcases List.mem_cons.mp hbehind with rfl | hhex
        · exact .inr rfl
        · exact .inl (isWordCharacter_of_mem_shownData hshown hhex)
  rcases hword with hword | rfl
  · exact ⟨hword.1, hword.2.1⟩
  · decide

/-- Words are told apart by the opcode and by what is shown of the data. -/
theorem word_eq_iff {m n : Int} {shown shown' : Option Text} :
    word m shown = word n shown' ↔ m = n ∧ shown = shown' := by
  have hdecimal : ∀ n : Int, CodePoint.colon ∉ Text.decimal n :=
    fun n hmem => (Text.isWordCharacter_of_mem_decimal hmem).2.2 rfl
  -- Only data have a colon.
  have hne : ∀ (m n : Int) (hex : Text), word m (some hex) ≠ word n none := by
    intro m n hex heq
    have hmem : CodePoint.colon ∈ word n none := by
      rw [← heq]
      exact List.mem_append_right _ List.mem_cons_self
    exact (Opcode.isWordCharacter_of_mem_shown hmem).2.2 rfl
  refine ⟨fun h => ?_, fun h => by rw [h.1, h.2]⟩
  cases shown with
  | none =>
    cases shown' with
    | none => exact ⟨Opcode.shown_injective h, rfl⟩
    | some hex => exact absurd h.symm (hne n m hex)
  | some hex =>
    cases shown' with
    | none => exact absurd h (hne m n hex)
    | some hex' =>
      obtain ⟨hopcode, rfl⟩ := Text.append_cons_inj (hdecimal m) (hdecimal n) h
      exact ⟨Text.decimal_injective hopcode, rfl⟩

/-- Instructions are shown alike exactly if they look alike. -/
theorem render_eq_iff {i j : Instruction} : i.render = j.render ↔ i.LooksLike j := by
  rw [render_eq_word, render_eq_word, word_eq_iff, looksLike_iff]

end Instruction

/-! ## Scripts -/

namespace Script

/-- What stands in the text of a script is plain. -/
theorem isPlain_of_mem_render {script : Script} {c : CodePoint} (hc : c ∈ script.render) :
    c.IsPlain := by
  induction script with
  | nil => cases hc
  | cons i script ih =>
    cases script with
    | nil =>
      rw [render, List.map_singleton, List.intercalate_singleton] at hc
      exact (Instruction.isPlain_of_mem_render hc).1
    | cons j script =>
      rw [render, List.map_cons, List.map_cons, List.intercalate_cons_cons, List.append_assoc,
        List.mem_append, List.mem_append] at hc
      rcases hc with hi | hspace | hrest
      · exact (Instruction.isPlain_of_mem_render hi).1
      · have hplain : ∀ c ∈ Text.ofString " ", c.IsPlain := by decide
        exact hplain c hspace
      · exact ih hrest

/-- Scripts are shown alike exactly if their instructions look alike, one by one. -/
theorem render_eq_iff {script other : Script} :
    script.render = other.render ↔ List.Forall₂ Instruction.LooksLike script other := by
  have hwords : ∀ script : Script, ∀ t ∈ script.map Instruction.render,
      t ≠ [] ∧ CodePoint.space ∉ t := by
    intro script t ht
    obtain ⟨i, -, rfl⟩ := List.mem_map.mp ht
    exact ⟨i.render_ne_nil, fun hmem => (Instruction.isPlain_of_mem_render hmem).2 rfl⟩
  have hsplit : script.render = other.render ↔
      script.map Instruction.render = other.map Instruction.render :=
    ⟨Text.intercalate_inj (hwords script) (hwords other), congrArg _⟩
  have hlooks : (fun i j : Instruction => i.render = j.render) = Instruction.LooksLike :=
    funext₂ fun _ _ => propext Instruction.render_eq_iff
  rw [hsplit, ← List.forall₂_eq_eq_eq, List.forall₂_map_left_iff, List.forall₂_map_right_iff,
    hlooks]

end Script

namespace ScriptPair

/-- A pair is shown as the text of its locking script between apostrophes. -/
theorem render_eq (pair : ScriptPair) :
    pair.render = Text.ofString "Script('" ++ Script.render pair.locking ++ Text.ofString "')" := by
  have hquoted : (Script.render pair.locking).quoted =
      Text.ofString "'" ++ Script.render pair.locking ++ Text.ofString "'" :=
    Text.quoted_of_isPlain fun _ hc => Script.isPlain_of_mem_render hc
  have hopen : Text.ofString "Script('" = Text.ofString "Script(" ++ Text.ofString "'" := by decide
  have hclose : Text.ofString "')" = Text.ofString "'" ++ Text.ofString ")" := by decide
  simp only [render, hquoted, hopen, hclose, List.append_assoc]

/-- Pairs are rendered alike if their locking scripts are. -/
theorem render_eq_render_iff {pair other : ScriptPair} :
    pair.render = other.render ↔ Script.render pair.locking = Script.render other.locking := by
  rw [render_eq, render_eq, List.append_left_inj, List.append_right_inj]

end ScriptPair

/-- Two scripts are shown alike exactly if they have the same opcodes, one by one, and where those
push data, the same of these is shown. No quotation mark or backslash is shown, so that a pair is
shown as the text of its locking script between apostrophes, and tells what that text tells. -/
theorem Script.render_tells_all_but_long_data :
    (∀ script other : Script,
      script.render = other.render ↔ List.Forall₂ Instruction.LooksLike script other) ∧
    (∀ script : Script, ∀ c ∈ script.render,
      c ≠ Quoted.apostrophe ∧ c ≠ Quoted.doubleMark ∧ c ≠ Quoted.backslash) ∧
    (∀ pair : ScriptPair,
      pair.render =
        Text.ofString "Script('" ++ Script.render pair.locking ++ Text.ofString "')") ∧
    ∀ pair other : ScriptPair,
      pair.render = other.render ↔ Script.render pair.locking = Script.render other.locking :=
  ⟨fun _ _ => render_eq_iff, fun _ _ hc => (isPlain_of_mem_render hc).2.2, ScriptPair.render_eq,
    fun _ _ => ScriptPair.render_eq_render_iff⟩

/-- Long data show their ends only, and data of an instruction that pushes none are not shown. -/
example :
    Script.render [⟨6, some (List.replicate 6 0xAB)⟩, ⟨1, none⟩, ⟨-1, some []⟩, ⟨118, some [7]⟩] =
      Text.ofString "6:abab...abab InvalidOp_1 -1: DUP" := by
  decide +kernel

end NameOutputs
