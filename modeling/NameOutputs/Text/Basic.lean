/-!
# Code points, texts and bytes

A text is a list of code points, and a code point may be a surrogate: texts come from pushed bytes
that need not spell characters, and a byte that spells none is kept as a surrogate of its own, its
*raw* code point `0xDC00 + b`. Only bytes from `0x80` up are ever raw, so the raw code points are
`0xDC80` to `0xDCFF`, and `CodePoint.rawByte?` reads the byte back from one of them.
-/

namespace NameOutputs

/-- Pushed data, and whatever else is a row of bytes. -/
abbrev Bytes := List UInt8

/-- A code point: a number below `0x110000`, surrogates included. -/
@[ext]
structure CodePoint where
  /-- The number of the code point. -/
  code : Nat
  /-- The last code point is `0x10FFFF`. -/
  code_lt : code < 0x110000
deriving DecidableEq

namespace CodePoint

/-- The code point of a character. -/
def ofChar (c : Char) : CodePoint where
  code := c.toNat
  code_lt := by
    have h := c.valid
    simp only [UInt32.isValidChar, Nat.isValidChar] at h
    show c.val.toNat < 0x110000
    omega

/-- The code point whose number is the byte. -/
def ofByte (b : UInt8) : CodePoint where
  code := b.toNat
  code_lt := by have := b.toNat_lt; omega

/-- The code point that stands for a byte that spells no character. -/
def ofRawByte (b : UInt8) : CodePoint where
  code := 0xDC00 + b.toNat
  code_lt := by have := b.toNat_lt; omega

/-- The surrogates are the code points that are no characters. -/
def isSurrogate (c : CodePoint) : Bool :=
  0xD800 ≤ c.code && c.code < 0xE000

/-- The byte that a raw code point stands for. -/
def rawByte? (c : CodePoint) : Option UInt8 :=
  if 0xDC80 ≤ c.code ∧ c.code < 0xDD00 then some (UInt8.ofNat (c.code - 0xDC00)) else none

/-- Characters are told apart by their code points. -/
theorem ofChar_injective {c d : Char} (h : ofChar c = ofChar d) : c = d := by
  have h' : c.toNat = d.toNat := congrArg code h
  exact Char.toNat_inj.mp h'

/-- The code point of a byte has its number. -/
@[simp] theorem code_ofByte (b : UInt8) : (ofByte b).code = b.toNat := rfl

/-- The raw code point of a byte lies `0xDC00` above its number. -/
@[simp] theorem code_ofRawByte (b : UInt8) : (ofRawByte b).code = 0xDC00 + b.toNat := rfl

/-- A byte from `0x80` up is read back from its raw code point. -/
theorem rawByte?_ofRawByte {b : UInt8} (h : 0x80 ≤ b.toNat) : (ofRawByte b).rawByte? = some b := by
  have hb := b.toNat_lt
  have hr : 0xDC80 ≤ (ofRawByte b).code ∧ (ofRawByte b).code < 0xDD00 := by
    simp only [code_ofRawByte]; omega
  rw [rawByte?, if_pos hr, code_ofRawByte, Nat.add_sub_cancel_left, UInt8.ofNat_toNat]

/-- Only the raw code point of a byte stands for it. -/
theorem eq_ofRawByte_of_rawByte? {c : CodePoint} {b : UInt8} (h : c.rawByte? = some b) :
    c = ofRawByte b ∧ 0x80 ≤ b.toNat := by
  unfold rawByte? at h
  split at h
  · next hc =>
    obtain rfl := Option.some.inj h
    have hb : (UInt8.ofNat (c.code - 0xDC00)).toNat = c.code - 0xDC00 := by
      simp; omega
    refine ⟨?_, by omega⟩
    ext
    simp only [code_ofRawByte, hb]
    omega
  · simp at h

end CodePoint

/-- A text: code points in order. -/
abbrev Text := List CodePoint

/-- The text of a string, character by character. -/
def Text.ofString (s : String) : Text :=
  s.toList.map CodePoint.ofChar

/-- Strings are told apart by their texts. -/
theorem Text.ofString_injective {s t : String} (h : Text.ofString s = Text.ofString t) : s = t := by
  unfold Text.ofString at h
  exact String.toList_inj.mp (List.map_inj_right (fun _ _ => CodePoint.ofChar_injective) |>.mp h)

end NameOutputs
