import NameOutputs.Text.Basic

/-!
# Numerals

Integers of any size in decimal and in hexadecimal, as messages and renderings show them.
-/

namespace NameOutputs

namespace Text

/-- The digits of a number, the most significant first, in lower case. -/
def digits (base n : Nat) : Text :=
  (Nat.toDigits base n).map CodePoint.ofChar

/-- The numeral of an integer: a minus sign before those below zero, and decimal digits. -/
def decimal (n : Int) : Text :=
  if n < 0 then Text.ofString "-" ++ digits 10 n.natAbs else digits 10 n.natAbs

/-- The hexadecimal numeral of an integer: the sign, the mark `0x`, and the digits, with a leading
zero where the whole would be shorter than four. -/
def hexadecimal (n : Int) : Text :=
  if n < 0 then Text.ofString "-0x" ++ digits 16 n.natAbs
  else if n.natAbs < 0x10 then Text.ofString "0x0" ++ digits 16 n.natAbs
  else Text.ofString "0x" ++ digits 16 n.natAbs

end Text

end NameOutputs
