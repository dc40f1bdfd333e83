import NameOutputs.Text.Hex
import NameOutputs.Text.Printable

/-!
# Quoted texts

A quoted text stands between two quotation marks on one line and shows every code point in
printable ones. The mark is the apostrophe, or the double mark for a text that has an apostrophe and
no double mark. A backslash escapes the mark and itself, and the code points that are not printable
are written by their numbers.
-/

namespace NameOutputs

namespace Quoted

/-- The backslash. -/
def backslash : CodePoint := ⟨0x5C, by decide⟩

/-- The single quotation mark. -/
def apostrophe : CodePoint := ⟨0x27, by decide⟩

/-- The double quotation mark. -/
def doubleMark : CodePoint := ⟨0x22, by decide⟩

/-- The mark that a text is quoted with. -/
def mark (t : Text) : CodePoint :=
  if apostrophe ∈ t ∧ doubleMark ∉ t then doubleMark else apostrophe

/-- A code point written by its number: two, four or eight digits, as few as hold it. -/
def numbered (c : CodePoint) : Text :=
  if c.code < 0x100 then Text.ofString "x" ++ Text.paddedHex 2 c.code
  else if c.code < 0x10000 then Text.ofString "u" ++ Text.paddedHex 4 c.code
  else Text.ofString "U" ++ Text.paddedHex 8 c.code

/-- How a code point is written between two of the marks. -/
def escape (mark c : CodePoint) : Text :=
  if c = mark ∨ c = backslash then [backslash, c]
  else if c.code = 0x09 then backslash :: Text.ofString "t"
  else if c.code = 0x0A then backslash :: Text.ofString "n"
  else if c.code = 0x0D then backslash :: Text.ofString "r"
  else if c.isPrintable then [c]
  else backslash :: numbered c

end Quoted

/-- The text in quotation marks. -/
def Text.quoted (t : Text) : Text :=
  let mark := Quoted.mark t
  mark :: t.flatMap (Quoted.escape mark) ++ [mark]

/-- The texts quoted, between square brackets and with commas between them. -/
def Text.quotedList (ts : List Text) : Text :=
  Text.ofString "[" ++ (Text.ofString ", ").intercalate (ts.map Text.quoted) ++ Text.ofString "]"

end NameOutputs
