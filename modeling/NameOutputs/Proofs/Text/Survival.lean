import Mathlib.Data.List.Infix
import NameOutputs.Proofs.Text.RoundTrip

/-!
# Texts that survive being written and read back

Bytes are never lost by being read, but a text may be lost by being written. Writing fails on a
code point that is neither raw nor a character of the charset. Where it succeeds, reading may give
another text: in Latin-1 every byte is a character, so no raw code point comes back, and in UTF-8
raw code points that stand side by side may spell a character together. `survives_writing` says for
each charset which texts can be written and which of these are read back.

What a text is written as is a `Spelling` of it, so the proof goes over the code points with their
runs of bytes. In UTF-8 a run that starts with a raw byte is read as that byte unless a well-formed
sequence starts there. The other bytes of such a sequence continue it, which the first byte of a
character never does, so they are raw as well (`Spelling.take_raw`).
-/

namespace NameOutputs

namespace Charset

variable {charset : Charset} {run bs : Bytes} {c : CodePoint} {t : Text}

/-- A code point is spelled as its raw byte, or else it is a character of the charset. -/
theorem Spells.cases (h : charset.Spells run c) :
    (∃ b, 0x80 ≤ b.toNat ∧ c = .ofRawByte b ∧ run = [b]) ∨
      c.isSurrogate = false ∧ charset.encodeCharacter? c = some run := by
  have hwritten := h.written
  unfold encodeCodePoint? at hwritten
  split at hwritten
  · next b hb =>
    obtain ⟨rfl, hle⟩ := CodePoint.eq_ofRawByte_of_rawByte? hb
    exact .inl ⟨b, hle, rfl, (Option.some.inj hwritten).symm⟩
  · next hnone =>
    refine .inr ⟨Bool.eq_false_iff.mpr fun hc => ?_, hwritten⟩
    -- A surrogate that is spelled is raw, and a raw code point has a byte.
    have hrange := h.raw hc
    unfold CodePoint.rawByte? at hnone
    rw [if_pos ⟨hrange.1, by omega⟩] at hnone
    cases hnone

/-- The characters of Latin-1 and what they are written as. -/
theorem encodeCharacter?_latin1_iff :
    latin1.encodeCharacter? c = some run ↔ c.code ≤ 0xFF ∧ [UInt8.ofNat c.code] = run := by
  show (if c.code < 0x100 then _ else _) = _ ↔ _
  rw [Option.ite_none_right_eq_some, Option.some.injEq, Nat.lt_succ_iff]

/-- The characters of ASCII and what they are written as. -/
theorem encodeCharacter?_ascii_iff :
    ascii.encodeCharacter? c = some run ↔ c.code ≤ 0x7F ∧ [UInt8.ofNat c.code] = run := by
  show (if c.code < 0x80 then _ else _) = _ ↔ _
  rw [Option.ite_none_right_eq_some, Option.some.injEq, Nat.lt_succ_iff]

/-- The characters of UTF-8 and what they are written as. -/
theorem encodeCharacter?_utf8_iff :
    utf8.encodeCharacter? c = some run ↔ c.isSurrogate = false ∧ Utf8.encode c = run := by
  show (if c.isSurrogate then _ else _) = _ ↔ _
  rw [Option.ite_none_left_eq_some, Option.some.injEq, Bool.not_eq_true]

/-- No charset has a surrogate among its characters. -/
theorem isSurrogate_of_encodeCharacter? (h : charset.encodeCharacter? c = some run) :
    c.isSurrogate = false := by
  cases charset with
  | utf8 => exact (encodeCharacter?_utf8_iff.mp h).1
  | latin1 =>
    have hc := (encodeCharacter?_latin1_iff.mp h).1
    rw [CodePoint.isSurrogate, Bool.and_eq_false_iff]
    exact .inl (decide_eq_false (by omega))
  | ascii =>
    have hc := (encodeCharacter?_ascii_iff.mp h).1
    rw [CodePoint.isSurrogate, Bool.and_eq_false_iff]
    exact .inl (decide_eq_false (by omega))

/-- A code point is spelled by whatever it is written as. -/
theorem spells_iff : charset.Spells run c ↔ charset.encodeCodePoint? c = some run := by
  refine ⟨Spells.written, fun h => ?_⟩
  have h' := h
  unfold encodeCodePoint? at h'
  split at h'
  · next b hb =>
    obtain ⟨rfl, hle⟩ := CodePoint.eq_ofRawByte_of_rawByte? hb
    exact ⟨h, fun _ => CodePoint.ofRawByte_range hle⟩
  · exact spells_of_isSurrogate (isSurrogate_of_encodeCharacter? h') h'

/-- A text is spelled by whatever it is written as. -/
theorem spelling_iff : charset.Spelling bs t ↔ charset.encode? t = some bs := by
  refine ⟨Spelling.encode?_eq, fun h => ?_⟩
  induction t generalizing bs with
  | nil =>
    obtain rfl := Option.some.inj h
    exact .nil
  | cons c t ih =>
    obtain ⟨run, hrun, h⟩ := Option.bind_eq_some_iff.mp h
    obtain ⟨rest, hrest, h⟩ := Option.bind_eq_some_iff.mp h
    obtain rfl := Option.some.inj h
    exact .cons (spells_iff.mpr hrun) (ih hrest)

/-- A text can be written if each of its code points can. -/
theorem exists_spelling_iff :
    (∃ bs, charset.Spelling bs t) ↔ ∀ c ∈ t, ∃ run, charset.Spells run c := by
  induction t with
  | nil => exact iff_of_true ⟨[], .nil⟩ fun c hc => absurd hc List.not_mem_nil
  | cons c t ih =>
    rw [List.forall_mem_cons, ← ih]
    constructor
    · rintro ⟨_, h⟩
      cases h with
      | cons hrun hrest => exact ⟨⟨_, hrun⟩, _, hrest⟩
    · rintro ⟨⟨run, hrun⟩, bs, hrest⟩
      exact ⟨run ++ bs, .cons hrun hrest⟩

/-- A code point can be written if it is raw or a character of the charset. -/
theorem exists_spells_iff :
    (∃ run, charset.Spells run c) ↔
      (∃ run, charset.encodeCharacter? c = some run) ∨ 0xDC80 ≤ c.code ∧ c.code ≤ 0xDCFF := by
  constructor
  · rintro ⟨run, h⟩
    rcases h.cases with ⟨b, hb, rfl, -⟩ | ⟨-, hcharacter⟩
    · exact .inr (CodePoint.ofRawByte_range hb)
    · exact .inl ⟨run, hcharacter⟩
  · rintro (⟨run, h⟩ | ⟨hlow, hhigh⟩)
    · exact ⟨run, spells_of_isSurrogate (isSurrogate_of_encodeCharacter? h) h⟩
    · have hb : c.rawByte? = some (UInt8.ofNat (c.code - 0xDC00)) := if_pos ⟨hlow, by omega⟩
      obtain ⟨hc, hle⟩ := CodePoint.eq_ofRawByte_of_rawByte? hb
      rw [hc]
      exact ⟨_, spells_ofRawByte charset hle⟩

/-! ## One byte a code point -/

/-- In a charset that reads byte by byte, a text is read back if each code point is read back from
its byte. -/
theorem Spelling.map_eq_iff {read : UInt8 → CodePoint} {Kept : CodePoint → Prop}
    (hread : ∀ run c, charset.Spells run c → ∃ b, run = [b] ∧ (read b = c ↔ Kept c))
    (h : charset.Spelling bs t) : bs.map read = t ↔ ∀ c ∈ t, Kept c := by
  induction h with
  | nil => exact iff_of_true rfl fun c hc => absurd hc List.not_mem_nil
  | cons hrun _ ih =>
    obtain ⟨b, rfl, hb⟩ := hread _ _ hrun
    rw [List.forall_mem_cons, ← hb, ← ih]
    exact List.cons_eq_cons

/-- In Latin-1 a code point is read back from its byte if it is a character of the charset. -/
theorem exists_byte_latin1 (run : Bytes) (c : CodePoint) (h : latin1.Spells run c) :
    ∃ b, run = [b] ∧ (.ofByte b = c ↔ c.code ≤ 0xFF) := by
  rcases h.cases with ⟨b, -, rfl, rfl⟩ | ⟨-, hcharacter⟩
  · refine ⟨b, rfl, iff_of_false (fun heq => ?_) (by rw [CodePoint.code_ofRawByte]; omega)⟩
    have hcode := congrArg CodePoint.code heq
    rw [CodePoint.code_ofByte, CodePoint.code_ofRawByte] at hcode
    omega
  · obtain ⟨hc, rfl⟩ := encodeCharacter?_latin1_iff.mp hcharacter
    refine ⟨_, rfl, iff_of_true ?_ hc⟩
    ext
    rw [CodePoint.code_ofByte, UInt8.toNat_ofNat', Nat.mod_eq_of_lt (by omega)]

/-- In ASCII every code point is read back from its byte. -/
theorem exists_byte_ascii (run : Bytes) (c : CodePoint) (h : ascii.Spells run c) :
    ∃ b, run = [b] ∧
      ((if b.toNat < 0x80 then CodePoint.ofByte b else .ofRawByte b) = c ↔ True) := by
  rcases h.cases with ⟨b, hb, rfl, rfl⟩ | ⟨-, hcharacter⟩
  · exact ⟨b, rfl, iff_true_intro (if_neg (Nat.not_lt.mpr hb))⟩
  · obtain ⟨hc, rfl⟩ := encodeCharacter?_ascii_iff.mp hcharacter
    have hb : (UInt8.ofNat c.code).toNat = c.code := by
      rw [UInt8.toNat_ofNat', Nat.mod_eq_of_lt (by omega)]
    refine ⟨_, rfl, iff_true_intro ?_⟩
    rw [hb, if_pos (by omega)]
    ext
    exact hb

/-! ## Raw code points that spell a character -/

/-- Raw code points whose bytes are those of a character that UTF-8 writes as several bytes. -/
structure SpellsCharacter (run : Text) (c : CodePoint) : Prop where
  /-- The code points are raw, and these are their bytes. -/
  bytes : run.map CodePoint.rawByte? = (Utf8.encode c).map some
  /-- The bytes are those of a character. -/
  character : c.isSurrogate = false
  /-- There are several of them. -/
  several : 0x80 ≤ c.code

/-- Some raw code points are needed to spell a character. -/
theorem SpellsCharacter.ne_nil {run : Text} (h : SpellsCharacter run c) : run ≠ [] := by
  rintro rfl
  have hbytes := h.bytes
  rw [Utf8.encode_eq] at hbytes
  cases hbytes

/-- Raw code points are spelled by their bytes. -/
theorem spelling_of_map_rawByte? {run : Text} (h : run.map CodePoint.rawByte? = bs.map some) :
    charset.Spelling bs run := by
  induction run generalizing bs with
  | nil =>
    obtain rfl := List.map_eq_nil_iff.mp h.symm
    exact .nil
  | cons c run ih =>
    obtain ⟨b, rest, rfl, hb, hrest⟩ := List.map_eq_cons_iff.mp h.symm
    obtain ⟨rfl, hle⟩ := CodePoint.eq_ofRawByte_of_rawByte? hb.symm
    exact .cons (spells_ofRawByte charset hle) (ih hrest.symm)

/-- The bytes of a text fall apart where the text does. -/
theorem Spelling.of_append {front back : Text} (h : charset.Spelling bs (front ++ back)) :
    ∃ frontBytes backBytes, bs = frontBytes ++ backBytes ∧ charset.Spelling frontBytes front ∧
      charset.Spelling backBytes back := by
  induction front generalizing bs with
  | nil => exact ⟨[], bs, rfl, .nil, h⟩
  | cons c front ih =>
    cases h with
    | @cons run rest _ _ hrun hrest =>
      obtain ⟨frontBytes, backBytes, rfl, hfront, hback⟩ := ih hrest
      exact ⟨run ++ frontBytes, backBytes, (List.append_assoc _ _ _).symm, .cons hrun hfront, hback⟩

/-- A text has one spelling at most. -/
theorem Spelling.unique {bs' : Bytes} (h : charset.Spelling bs t) (h' : charset.Spelling bs' t) :
    bs = bs' :=
  Option.some.inj (h.encode?_eq.symm.trans h'.encode?_eq)

/-- Bytes that continue a sequence are those of raw code points. -/
theorem Spelling.take_raw {bits tails code : Nat} (h : utf8.Spelling bs t)
    (hextend : Utf8.extend? bits tails bs = some code) :
    (t.take tails).map CodePoint.rawByte? = (bs.take tails).map some := by
  induction tails generalizing bits bs t with
  | zero => rfl
  | succ tails ih =>
    cases h with
    | nil => cases hextend
    | @cons run rest c t hrun hrest =>
      rcases hrun.cases with ⟨b, hb, rfl, rfl⟩ | ⟨-, hcharacter⟩
      · rw [List.singleton_append, Utf8.extend?] at hextend
        split_ifs at hextend
        rw [List.singleton_append, List.take_succ_cons, List.take_succ_cons, List.map_cons,
          List.map_cons, CodePoint.rawByte?_ofRawByte hb, ih hrest hextend]
      · -- The bytes of a character start with one that continues nothing.
        obtain ⟨-, rfl⟩ := encodeCharacter?_utf8_iff.mp hcharacter
        obtain ⟨b, bs, hencode, hb⟩ := Utf8.exists_encode_eq_cons c
        rw [hencode, List.cons_append, Utf8.extend?, hb] at hextend
        cases hextend

/-- A raw byte starts a well-formed sequence if its code point and some that follow it spell a
character. -/
theorem Spelling.sequence?_isSome_iff {b : UInt8} (hb : 0x80 ≤ b.toNat) (h : utf8.Spelling bs t) :
    (Utf8.sequence? (b :: bs)).isSome ↔
      ∃ run c, run <+: .ofRawByte b :: t ∧ SpellsCharacter run c := by
  constructor
  · intro hsome
    obtain ⟨⟨c, tails⟩, hsequence⟩ := Option.isSome_iff_exists.mp hsome
    have hencode := Utf8.encode_of_sequence? hsequence
    obtain ⟨bits, -, hextend, -, hc⟩ := Utf8.sequence?_eq_some_iff.mp hsequence
    refine ⟨.ofRawByte b :: t.take tails, c,
      List.cons_prefix_cons.mpr ⟨rfl, List.take_prefix tails t⟩, ?_, hc, ?_⟩
    · rw [hencode, List.map_cons, List.map_cons, CodePoint.rawByte?_ofRawByte hb,
        h.take_raw hextend]
    · -- A character below `0x80` is a byte below `0x80`.
      refine Nat.le_of_not_lt fun hlt => ?_
      unfold Utf8.encode at hencode
      rw [if_pos hlt] at hencode
      obtain ⟨rfl, -⟩ := List.cons.inj hencode
      rw [UInt8.toNat_ofNat', Nat.mod_eq_of_lt (by omega)] at hb
      omega
  · rintro ⟨run, c, ⟨back, hback⟩, hcharacter⟩
    have hspelling : utf8.Spelling ([b] ++ bs) (run ++ back) := by
      rw [hback]
      exact .cons (spells_ofRawByte utf8 hb) h
    obtain ⟨front, rest, hbytes, hfront, -⟩ := hspelling.of_append
    obtain rfl := hfront.unique (spelling_of_map_rawByte? hcharacter.bytes)
    rw [List.singleton_append] at hbytes
    rw [hbytes, Utf8.sequence?_encode_append hcharacter.character]
    rfl

/-- In UTF-8 a text is read back if no raw code points of it, side by side, spell a character. -/
theorem Spelling.decode_eq_iff (h : utf8.Spelling bs t) :
    Utf8.decode bs = t ↔ ¬ ∃ run c, run <:+: t ∧ SpellsCharacter run c := by
  induction h with
  | nil =>
    refine iff_of_true rfl ?_
    rintro ⟨run, c, hrun, hcharacter⟩
    exact hcharacter.ne_nil (List.infix_nil.mp hrun)
  | @cons run bs c t hrun hrest ih =>
    -- What is spelled starts at the first code point or behind it.
    simp only [List.infix_cons_iff, or_and_right, exists_or, not_or, ← ih]
    rcases hrun.cases with ⟨b, hb, rfl, rfl⟩ | ⟨hc, hcharacter⟩
    · rw [List.singleton_append, ← hrest.sequence?_isSome_iff hb]
      cases hsequence : Utf8.sequence? (b :: bs) with
      | none => rw [Utf8.decode_of_sequence?_eq_none hsequence]; simp
      | some found =>
        obtain ⟨c, tails⟩ := found
        rw [Utf8.decode_of_sequence? hsequence]
        refine iff_of_false (fun heq => ?_) (fun hnone => hnone.1 rfl)
        -- The character that is read is no surrogate.
        have hsurrogate := Utf8.isSurrogate_of_sequence? hsequence
        rw [(List.cons.inj heq).1, ← Bool.not_eq_true] at hsurrogate
        have hrange := CodePoint.ofRawByte_range hb
        refine hsurrogate ?_
        rw [CodePoint.isSurrogate, Bool.and_eq_true, decide_eq_true_eq, decide_eq_true_eq]
        omega
    · obtain ⟨-, rfl⟩ := encodeCharacter?_utf8_iff.mp hcharacter
      rw [Utf8.decode_encode_append hc, List.cons_eq_cons]
      refine ⟨fun heq => ⟨?_, heq.2⟩, fun hnone => ⟨rfl, hnone.2⟩⟩
      rintro ⟨run, other, hprefix, hspells⟩
      obtain ⟨first, rest, rfl⟩ := List.exists_cons_of_ne_nil hspells.ne_nil
      obtain ⟨rfl, -⟩ := List.cons_prefix_cons.mp hprefix
      have hbytes := hspells.bytes
      rw [Utf8.encode_eq, List.map_cons, List.map_cons, CodePoint.rawByte?_of_isSurrogate hc]
        at hbytes
      cases hbytes

end Charset

namespace Encoding

open Charset

/-- Under a charset a text is written as what spells it. -/
theorem write_known_iff_spelling {charset : Charset} {t : Text} {data : Bytes} :
    (known charset).write t = .ok data ↔ charset.Spelling data t :=
  write_known_eq_ok_iff.trans spelling_iff.symm

/-- Under a charset writing a text fails in one way. -/
theorem write_known_of_encode?_eq_none {charset : Charset} {t : Text}
    (h : charset.encode? t = none) : (known charset).write t = .error .unencodable := by
  show EncodingFault.unencodable.unlessSome (charset.encode? t) = _
  rw [h]
  rfl

/-- Under a charset data are read as the text that they decode to. -/
theorem read_known_some_iff {charset : Charset} {t : Text} {data : Bytes} :
    (known charset).read (some data) = .ok t ↔ charset.decode data = t := by
  rw [read_known, Option.getD_some, Except.ok.injEq]

/-- Under a charset a text can be written if each of its code points can. -/
theorem exists_write_known_iff {charset : Charset} {t : Text} :
    (∃ data, (known charset).write t = .ok data) ↔
      ∀ c ∈ t, (∃ run, charset.encodeCharacter? c = some run) ∨
        0xDC80 ≤ c.code ∧ c.code ≤ 0xDCFF := by
  simp only [write_known_iff_spelling, exists_spelling_iff, exists_spells_iff]

/-- Which texts can be written under each charset, and which of these are read back. A text that
cannot be written has a code point without bytes, and that is how writing it fails. -/
theorem survives_writing (t : Text) :
    -- Latin-1: its own characters can be written besides the raw code points, and they survive.
    (((∃ data, (known .latin1).write t = .ok data) ↔
        ∀ c ∈ t, c.code ≤ 0xFF ∨ 0xDC80 ≤ c.code ∧ c.code ≤ 0xDCFF) ∧
      ∀ data, (known .latin1).write t = .ok data →
        ((known .latin1).read (some data) = .ok t ↔ ∀ c ∈ t, c.code ≤ 0xFF)) ∧
    -- ASCII: likewise, and all of them survive.
    (((∃ data, (known .ascii).write t = .ok data) ↔
        ∀ c ∈ t, c.code ≤ 0x7F ∨ 0xDC80 ≤ c.code ∧ c.code ≤ 0xDCFF) ∧
      ∀ data, (known .ascii).write t = .ok data → (known .ascii).read (some data) = .ok t) ∧
    -- UTF-8: all but the surrogates that are not raw can be written, and they survive unless raw
    -- code points side by side spell a character.
    (((∃ data, (known .utf8).write t = .ok data) ↔
        ∀ c ∈ t, c.isSurrogate = true → 0xDC80 ≤ c.code ∧ c.code ≤ 0xDCFF) ∧
      ∀ data, (known .utf8).write t = .ok data →
        ((known .utf8).read (some data) = .ok t ↔
          ¬ ∃ run c, run <:+: t ∧ SpellsCharacter run c)) ∧
    ∀ charset fault, (known charset).write t = .error fault → fault = .unencodable := by
  refine ⟨⟨?_, fun data h => ?_⟩, ⟨?_, fun data h => ?_⟩, ⟨?_, fun data h => ?_⟩, ?_⟩
  · simp only [exists_write_known_iff, encodeCharacter?_latin1_iff, exists_and_left, exists_eq',
      and_true]
  · rw [read_known_some_iff]
    exact (write_known_iff_spelling.mp h).map_eq_iff exists_byte_latin1
  · simp only [exists_write_known_iff, encodeCharacter?_ascii_iff, exists_and_left, exists_eq',
      and_true]
  · rw [read_known_some_iff]
    have hkept := (write_known_iff_spelling.mp h).map_eq_iff exists_byte_ascii
    exact hkept.mpr fun _ _ => trivial
  · simp only [exists_write_known_iff, encodeCharacter?_utf8_iff, exists_and_left, exists_eq',
      and_true, ← Bool.not_eq_true, ← imp_iff_not_or]
  · rw [read_known_some_iff]
    exact (write_known_iff_spelling.mp h).decode_eq_iff
  · intro charset fault h
    cases hencode : charset.encode? t with
    | some data =>
      rw [write_known_eq_ok_iff.mpr hencode] at h
      cases h
    | none =>
      rw [write_known_of_encode?_eq_none hencode] at h
      exact (Except.error.inj h).symm

/-- Two raw code points that spell `é` are read back as `é`. -/
example : (known .utf8).write [.ofRawByte 0xC3, .ofRawByte 0xA9] = .ok [0xC3, 0xA9] ∧
    (known .utf8).read (some [0xC3, 0xA9]) = .ok [.ofByte 0xE9] :=
  ⟨rfl, rfl⟩

end Encoding

end NameOutputs
