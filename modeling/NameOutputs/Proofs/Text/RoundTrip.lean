import NameOutputs.Proofs.Text.Utf8
import NameOutputs.Text.Encoding

/-!
# Texts lose nothing of their bytes

Under each charset the text of a row of bytes is written as these same bytes again, whether or not
they are well-formed in it. `Charset.Spelling` cuts bytes into runs, each of which is what one code
point is written as, and `Charset.spelling_decode` shows that reading yields such a cut: one byte a
run in the charsets of one byte, and in UTF-8 the runs between the points at which reading starts
afresh. What is to be shown of the text follows run by run: it is written as the runs in order, and
the surrogates in it are raw code points.
-/

namespace NameOutputs

namespace CodePoint

/-- The raw code point of a byte from `0x80` up is one of `0xDC80` to `0xDCFF`. -/
theorem ofRawByte_range {b : UInt8} (h : 0x80 ≤ b.toNat) :
    0xDC80 ≤ (ofRawByte b).code ∧ (ofRawByte b).code ≤ 0xDCFF := by
  have hb := b.toNat_lt
  rw [code_ofRawByte]
  omega

/-- The code point of the number of a byte is no surrogate. -/
theorem isSurrogate_ofByte (b : UInt8) : (ofByte b).isSurrogate = false := by
  have hb := b.toNat_lt
  rw [isSurrogate, code_ofByte, Bool.and_eq_false_iff]
  exact .inl (decide_eq_false (by omega))

/-- Only surrogates stand for bytes. -/
theorem rawByte?_of_isSurrogate {c : CodePoint} (h : c.isSurrogate = false) :
    c.rawByte? = none := by
  rw [isSurrogate, Bool.and_eq_false_iff, decide_eq_false_iff_not, decide_eq_false_iff_not] at h
  exact if_neg (by omega)

end CodePoint

namespace Charset

/-- A raw code point is written as its byte, whatever the charset. -/
theorem encodeCodePoint?_ofRawByte (charset : Charset) {b : UInt8} (h : 0x80 ≤ b.toNat) :
    charset.encodeCodePoint? (.ofRawByte b) = some [b] := by
  rw [encodeCodePoint?, CodePoint.rawByte?_ofRawByte h]

/-- A code point that is no surrogate is written as a character of the charset. -/
theorem encodeCodePoint?_of_isSurrogate (charset : Charset) {c : CodePoint}
    (h : c.isSurrogate = false) : charset.encodeCodePoint? c = charset.encodeCharacter? c := by
  rw [encodeCodePoint?, CodePoint.rawByte?_of_isSurrogate h]

/-- The run of bytes spells the code point: it is what the code point is written as, and a surrogate
is a raw code point. -/
structure Spells (charset : Charset) (run : Bytes) (c : CodePoint) : Prop where
  /-- The code point is written as the run. -/
  written : charset.encodeCodePoint? c = some run
  /-- A surrogate stands for a byte from `0x80` up. -/
  raw : c.isSurrogate = true → 0xDC80 ≤ c.code ∧ c.code ≤ 0xDCFF

/-- A byte from `0x80` up spells its raw code point. -/
theorem spells_ofRawByte (charset : Charset) {b : UInt8} (h : 0x80 ≤ b.toNat) :
    charset.Spells [b] (.ofRawByte b) where
  written := charset.encodeCodePoint?_ofRawByte h
  raw _ := CodePoint.ofRawByte_range h

/-- The bytes of a character spell it. -/
theorem spells_of_isSurrogate {charset : Charset} {run : Bytes} {c : CodePoint}
    (hc : c.isSurrogate = false) (h : charset.encodeCharacter? c = some run) :
    charset.Spells run c where
  written := (charset.encodeCodePoint?_of_isSurrogate hc).trans h
  raw htrue := by rw [hc] at htrue; cases htrue

/-- The bytes fall into runs that spell the code points of the text, one each. -/
inductive Spelling (charset : Charset) : Bytes → Text → Prop
  /-- No bytes spell the empty text. -/
  | nil : Spelling charset [] []
  /-- A run in front spells one more code point. -/
  | cons {run bs : Bytes} {c : CodePoint} {t : Text} :
    charset.Spells run c → Spelling charset bs t → Spelling charset (run ++ bs) (c :: t)

/-- A text is written as the bytes that spell it. -/
theorem Spelling.encode?_eq {charset : Charset} {bs : Bytes} {t : Text}
    (h : charset.Spelling bs t) : charset.encode? t = some bs := by
  induction h with
  | nil => rfl
  | cons hrun _ ih =>
    rw [encode?, hrun.written, ih]
    rfl

/-- The surrogates of a text that bytes spell are raw code points. -/
theorem Spelling.raw {charset : Charset} {bs : Bytes} {t : Text} (h : charset.Spelling bs t) :
    ∀ c ∈ t, c.isSurrogate = true → 0xDC80 ≤ c.code ∧ c.code ≤ 0xDCFF := by
  induction h with
  | nil =>
    intro c hc
    cases hc
  | cons hrun _ ih =>
    intro c hc
    rcases List.mem_cons.mp hc with rfl | hc
    · exact hrun.raw
    · exact ih c hc

/-- If each byte spells a code point, the bytes spell these in order. -/
theorem spelling_map {charset : Charset} {f : UInt8 → CodePoint}
    (h : ∀ b, charset.Spells [b] (f b)) (bs : Bytes) : charset.Spelling bs (bs.map f) := by
  induction bs with
  | nil => exact .nil
  | cons b bs ih => exact .cons (h b) ih

/-- Bytes spell their text in UTF-8, also where they are not well-formed. -/
theorem spelling_decode_utf8 (bs : Bytes) : utf8.Spelling bs (Utf8.decode bs) := by
  induction bs using Utf8.induction_resync with
  | nil => exact .nil
  | character b bs c tails hsequence ih =>
    have hc : c.isSurrogate = false := Utf8.isSurrogate_of_sequence? hsequence
    have hrun : utf8.Spells (b :: bs.take tails) c := by
      refine spells_of_isSurrogate hc ?_
      show (if c.isSurrogate then none else some (Utf8.encode c)) = _
      rw [hc, Utf8.encode_of_sequence? hsequence]
      rfl
    -- The run is taken off the bytes, and reading goes on behind it.
    have h := Spelling.cons hrun ih
    rw [List.cons_append, List.take_append_drop] at h
    rwa [Utf8.decode_of_sequence? hsequence]
  | raw b bs hsequence ih =>
    have hb : 0x80 ≤ b.toNat := Utf8.le_toNat_of_sequence?_eq_none hsequence
    rw [Utf8.decode_of_sequence?_eq_none hsequence]
    exact .cons (spells_ofRawByte utf8 hb) ih

/-- In Latin-1 every byte spells the code point of its number. -/
theorem spells_latin1 (b : UInt8) : latin1.Spells [b] (.ofByte b) := by
  refine spells_of_isSurrogate (CodePoint.isSurrogate_ofByte b) ?_
  show (if b.toNat < 0x100 then some [UInt8.ofNat b.toNat] else none) = _
  rw [if_pos b.toNat_lt, UInt8.ofNat_toNat]

/-- In ASCII a byte below `0x80` spells the code point of its number, and any other its raw one. -/
theorem spells_ascii (b : UInt8) :
    ascii.Spells [b] (if b.toNat < 0x80 then .ofByte b else .ofRawByte b) := by
  by_cases hb : b.toNat < 0x80
  · rw [if_pos hb]
    refine spells_of_isSurrogate (CodePoint.isSurrogate_ofByte b) ?_
    show (if b.toNat < 0x80 then some [UInt8.ofNat b.toNat] else none) = _
    rw [if_pos hb, UInt8.ofNat_toNat]
  · rw [if_neg hb]
    exact spells_ofRawByte ascii (Nat.le_of_not_lt hb)

/-- Bytes spell their text under each charset. -/
theorem spelling_decode (charset : Charset) (bs : Bytes) :
    charset.Spelling bs (charset.decode bs) := by
  cases charset with
  | latin1 => exact spelling_map spells_latin1 bs
  | ascii => exact spelling_map spells_ascii bs
  | utf8 => exact spelling_decode_utf8 bs

/-- The text of bytes is written as these bytes. -/
theorem encode?_decode (charset : Charset) (bs : Bytes) :
    charset.encode? (charset.decode bs) = some bs :=
  (charset.spelling_decode bs).encode?_eq

/-- Bytes are told apart by their texts. -/
theorem decode_injective (charset : Charset) {bs bs' : Bytes}
    (h : charset.decode bs = charset.decode bs') : bs = bs' := by
  have hencode := charset.encode?_decode bs
  rw [h, charset.encode?_decode bs'] at hencode
  exact (Option.some.inj hencode).symm

end Charset

namespace Encoding

/-- Under a charset the text of bytes is written as these bytes. -/
theorem write_known_decode (charset : Charset) (data : Bytes) :
    (known charset).write (charset.decode data) = .ok data :=
  write_known_eq_ok_iff.mpr (charset.encode?_decode data)

/-- Under a charset, any data are read as a text whose surrogates are raw code points, and writing
that text gives the data back. -/
theorem write_read (charset : Charset) (data : Bytes) :
    ∃ t, (known charset).read (some data) = .ok t ∧
      (∀ c ∈ t, c.isSurrogate = true → 0xDC80 ≤ c.code ∧ c.code ≤ 0xDCFF) ∧
      (known charset).write t = .ok data := by
  refine ⟨charset.decode data, read_known charset (some data), ?_, ?_⟩
  · exact (charset.spelling_decode data).raw
  · exact write_known_eq_ok_iff.mpr (charset.encode?_decode data)

end Encoding

end NameOutputs
