import NameOutputs.Text.Charset
import NameOutputs.Text.Utf16

/-!
# Codecs

A codec turns data into text and text into data, and may fail at either. The charsets are codecs
that read all data and write code point by code point. In general neither holds: UTF-16 does not
read all data, and a codec that puts a mark in front does so for each text that it writes. What
codecs there are besides the charsets is up to a registry, which lists them by name.
-/

namespace NameOutputs

/-- Why data and text do not turn into each other. -/
inductive EncodingFault
  /-- The label names no codec. -/
  | unknownEncoding (label : String)
  /-- The text has a code point that the codec has no bytes for. -/
  | unencodable
  /-- The data spell no text. -/
  | undecodable
  /-- The codec has a reason of its own. -/
  | refused (reason : Text)
deriving DecidableEq

/-- What is there, or the fault if nothing is. -/
def EncodingFault.unlessSome {α : Type} (fault : EncodingFault) : Option α → Except EncodingFault α
  | some a => .ok a
  | none => .error fault

/-- How data that are not empty are read, and how texts are written. -/
structure Codec where
  /-- The text of data. -/
  decode : Bytes → Except EncodingFault Text
  /-- The data of a text. -/
  encode : Text → Except EncodingFault Bytes

/-- A charset as a codec. -/
def Charset.codec (charset : Charset) : Codec where
  decode data := .ok (charset.decode data)
  encode t := EncodingFault.unencodable.unlessSome (charset.encode? t)

namespace Codec

/-- The codec puts the data of a text together from what it has for each code point. -/
def WritesByCodePoint (codec : Codec) : Prop :=
  ∃ bytes : CodePoint → Except EncodingFault Bytes,
    ∀ t, codec.encode t = List.flatten <$> t.mapM bytes

/-- The codec behind a mark, which every text is written with and no text need be read with. -/
def marked (mark : Bytes) (codec : Codec) : Codec where
  decode data := codec.decode (if mark.isPrefixOf data then data.drop mark.length else data)
  encode t := do return mark ++ (← codec.encode t)

/-- UTF-16 in one byte order. -/
def utf16Ordered (order : ByteOrder) : Codec where
  decode data := EncodingFault.undecodable.unlessSome (Utf16.decode? order data)
  encode t := EncodingFault.unencodable.unlessSome (Utf16.encode? order t)

/-- UTF-8 behind the mark `U+FEFF`. -/
def utf8Marked : Codec :=
  Charset.utf8.codec.marked [0xEF, 0xBB, 0xBF]

/-- The mark of UTF-16 with the most significant byte first. -/
def bigMark : Bytes := [0xFE, 0xFF]

/-- The mark of UTF-16 with the least significant byte first. -/
def littleMark : Bytes := [0xFF, 0xFE]

/-- UTF-16 behind the mark `U+FEFF`, which tells the byte order. Without a mark the least
significant byte comes first. -/
def utf16 : Codec where
  decode data :=
    if bigMark.isPrefixOf data then ((utf16Ordered .big).marked bigMark).decode data
    else ((utf16Ordered .little).marked littleMark).decode data
  encode := ((utf16Ordered .little).marked littleMark).encode

/-- The codecs besides the charsets that are spelled out here, by name. -/
def ofName? (name : String) : Option Codec :=
  if name = "utf_8_sig" then some utf8Marked
  else if name ∈ ["utf_16", "utf16", "u16"] then some utf16
  else if name ∈ ["utf_16_le", "utf_16le", "unicodelittleunmarked"] then
    some (utf16Ordered .little)
  else if name ∈ ["utf_16_be", "utf_16be", "unicodebigunmarked"] then some (utf16Ordered .big)
  else none

end Codec

end NameOutputs
