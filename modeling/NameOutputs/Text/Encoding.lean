import NameOutputs.Text.Codec

/-!
# Encodings by label

Scripts are read under an encoding that the caller names by a label. A label names a charset, or
else a codec that a registry lists. A label that names neither is an encoding too, one that fails
once it is needed: reading needs it for data that is there and is not empty, and writing needs it
always.
-/

namespace NameOutputs

/-- What a label names. -/
inductive Encoding
  /-- A charset. -/
  | known (charset : Charset)
  /-- Another codec of the registry. -/
  | other (codec : Codec)
  /-- No codec. -/
  | unknown (label : String)

namespace Encoding

/-- The names of each charset. -/
def names : Charset → List String
  | .latin1 =>
    ["latin_1", "iso_8859_1", "latin1", "iso8859_1", "8859", "iso8859", "cp819", "latin", "l1",
      "csisolatin1", "ibm819", "iso_8859_1_1987", "iso_ir_100"]
  | .ascii =>
    ["ascii", "us_ascii", "646", "us", "ansi_x3.4_1968", "ansi_x3_4_1968", "ansi_x3.4_1986",
      "cp367", "csascii", "ibm367", "iso646_us", "iso_646.irv_1991", "iso_ir_6"]
  | .utf8 => ["utf_8", "utf8", "u8", "utf", "utf8_ucs2", "utf8_ucs4", "cp65001"]

/-- Whether a character of a label matters. All others only separate what matters. -/
def isNameCharacter (c : Char) : Bool :=
  c.isAlphanum || c = '.'

/-- The name that a label spells, in which the case of letters does not matter and an underscore
stands for what separates them. -/
def nameOf (label : String) : String :=
  let runs := label.toList.splitBy fun c d => isNameCharacter c = isNameCharacter d
  let words := runs.filter fun run => run.all isNameCharacter
  String.ofList ((List.intercalate ['_'] words).map Char.toLower)

/-- The encoding that a label names, where the registry lists codecs by name. No registry replaces
a charset. -/
def ofLabel (registry : String → Option Codec) (label : String) : Encoding :=
  match [Charset.latin1, .ascii, .utf8].find? (fun charset => nameOf label ∈ names charset) with
  | some charset => known charset
  | none =>
    match registry (nameOf label) with
    | some codec => other codec
    | none => unknown label

/-- A label names a charset when it spells one of the names of that charset, which no other has. -/
theorem ofLabel_eq_known_iff {registry : String → Option Codec} {label : String}
    {charset : Charset} :
    ofLabel registry label = known charset ↔ nameOf label ∈ names charset := by
  unfold ofLabel
  generalize nameOf label = name
  constructor
  · intro h
    split at h
    · next found hfound =>
      obtain rfl := Encoding.known.inj h
      have hmem := List.find?_some hfound
      exact of_decide_eq_true hmem
    · split at h <;> cases h
  · intro h
    have hfind : ([Charset.latin1, .ascii, .utf8].find? fun charset => name ∈ names charset) =
        some charset := by
      revert name
      cases charset <;> decide
    rw [hfind]

/-- The label that stands for an encoding that the caller does not name. -/
def standardLabel : String := "latin-1"

/-- The encoding that the caller does not name: each byte is one code point. -/
def standard : Encoding := known .latin1

/-- The standard encoding is the one of its label. -/
theorem ofLabel_standardLabel (registry : String → Option Codec) :
    ofLabel registry standardLabel = standard :=
  ofLabel_eq_known_iff.mpr (by decide)

/-- The codec of the encoding. -/
def codec : Encoding → Except EncodingFault Codec
  | known charset => .ok charset.codec
  | other codec => .ok codec
  | unknown label => .error (.unknownEncoding label)

/-- The text of pushed data. No data and empty data are both the empty text, under any label. -/
def read (encoding : Encoding) : Option Bytes → Except EncodingFault Text
  | none | some [] => .ok []
  | some data => do (← encoding.codec).decode data

/-- The data that a text is pushed as. -/
def write (encoding : Encoding) (t : Text) : Except EncodingFault Bytes := do
  (← encoding.codec).encode t

/-- Under a charset every data have a text, and no data have the empty one. -/
theorem read_known (charset : Charset) (data : Option Bytes) :
    (known charset).read data = .ok (charset.decode (data.getD [])) := by
  match data with
  | none | some [] => cases charset <;> rfl
  | some (_ :: _) => rfl

/-- Under a charset a text is written as its bytes, when it has some. -/
theorem write_known_eq_ok_iff {charset : Charset} {t : Text} {data : Bytes} :
    (known charset).write t = .ok data ↔ charset.encode? t = some data := by
  show EncodingFault.unencodable.unlessSome (charset.encode? t) = _ ↔ _
  cases charset.encode? t <;> simp [EncodingFault.unlessSome]

end Encoding

/-- The wording of an encoding fault. -/
def EncodingFault.message : EncodingFault → Text
  | unknownEncoding label => Text.ofString ("unknown encoding: " ++ label)
  | unencodable => Text.ofString "a code point has no bytes in the encoding"
  | undecodable => Text.ofString "the data have no text in the encoding"
  | refused reason => reason

end NameOutputs
