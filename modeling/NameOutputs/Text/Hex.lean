import NameOutputs.Text.Basic

/-!
# Hexadecimal digits

Numbers of a fixed width and bytes in lower-case hexadecimal digits, and the abbreviation that shows
long data by their ends.
-/

namespace NameOutputs

namespace Text

/-- The digits of a number below `16 ^ width`, with leading zeros up to `width`. -/
def paddedHex : (width : Nat) → Nat → Text
  | 0, _ => []
  | width + 1, n => paddedHex width (n / 0x10) ++ [.ofChar (Nat.digitChar (n % 0x10))]

/-- A padded numeral is as wide as it was asked to be. -/
@[simp] theorem length_paddedHex (width n : Nat) : (paddedHex width n).length = width := by
  induction width generalizing n with
  | zero => rfl
  | succ width ih => simp [paddedHex, ih]

end Text

namespace Bytes

/-- Two hexadecimal digits for each byte. -/
def hex (bs : Bytes) : Text :=
  bs.flatMap fun b => Text.paddedHex 2 b.toNat

/-- The hexadecimal digits, with dots between the first two bytes and the last two where there are
more than five. -/
def shortHex (bs : Bytes) : Text :=
  if bs.length ≤ 5 then hex bs
  else hex (bs.take 2) ++ Text.ofString "..." ++ hex (bs.drop (bs.length - 2))

/-- Each byte takes two digits. -/
@[simp] theorem length_hex (bs : Bytes) : (hex bs).length = 2 * bs.length := by
  induction bs with
  | nil => rfl
  | cons b bs ih => simp only [hex, List.flatMap_cons, List.length_append, List.length_cons] at ih ⊢
                    rw [ih, Text.length_paddedHex]; omega

end Bytes

end NameOutputs
