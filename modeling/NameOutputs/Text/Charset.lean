import NameOutputs.Text.Utf8

/-!
# Charsets

A charset says which bytes a character is written as. Every charset reads every row of bytes, since
a byte that spells no character is kept as a raw code point, and a raw code point is written as its
byte. Writing fails on a code point that is neither raw nor a character of the charset.
-/

namespace NameOutputs

/-- The charsets that pushed data may be read in. -/
inductive Charset
  /-- Each byte is the code point of its number. -/
  | latin1
  /-- The bytes below `0x80` are the code points of their numbers. -/
  | ascii
  /-- One to four bytes a character. -/
  | utf8
deriving DecidableEq

namespace Charset

/-- The text that the bytes spell. -/
def decode : Charset → Bytes → Text
  | latin1, bs => bs.map .ofByte
  | ascii, bs => bs.map fun b => if b.toNat < 0x80 then .ofByte b else .ofRawByte b
  | utf8, bs => Utf8.decode bs

/-- The bytes of a character of the charset. -/
def encodeCharacter? (charset : Charset) (c : CodePoint) : Option Bytes :=
  match charset with
  | latin1 => if c.code < 0x100 then some [UInt8.ofNat c.code] else none
  | ascii => if c.code < 0x80 then some [UInt8.ofNat c.code] else none
  | utf8 => if c.isSurrogate then none else some (Utf8.encode c)

/-- The bytes of a code point: a raw one is its byte, whatever the charset. -/
def encodeCodePoint? (charset : Charset) (c : CodePoint) : Option Bytes :=
  match c.rawByte? with
  -- This comes first: no charset has a character for a raw code point.
  | some b => some [b]
  | none => charset.encodeCharacter? c

/-- The bytes of a text, if each of its code points has some. -/
def encode? (charset : Charset) : Text → Option Bytes
  | [] => some []
  | c :: t => do
    let front ← charset.encodeCodePoint? c
    let back ← charset.encode? t
    return front ++ back

end Charset

end NameOutputs
