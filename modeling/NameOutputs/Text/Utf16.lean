import NameOutputs.Text.ByteOrder

/-!
# UTF-16

A character is written as one unit of two bytes, or as a pair of units that are surrogates. Reading
is not total: a unit that is a surrogate without its partner, and a byte that is left over, are kept
as raw code points, but a byte below `0x80` has none.
-/

namespace NameOutputs

/-- The raw code point of a byte, which only a byte from `0x80` up has. -/
def CodePoint.raw? (b : UInt8) : Option CodePoint :=
  if 0x80 ≤ b.toNat then some (.ofRawByte b) else none

namespace Utf16

/-- The units of a character. -/
def units (c : CodePoint) : List Nat :=
  if c.code < 0x10000 then [c.code]
  else [0xD800 + (c.code - 0x10000) / 0x400, 0xDC00 + (c.code - 0x10000) % 0x400]

/-- The bytes of a character. A surrogate has none. -/
def encodeCharacter? (order : ByteOrder) (c : CodePoint) : Option Bytes :=
  if c.isSurrogate then none else some ((units c).flatMap (order.bytes 2))

/-- The bytes of a text, if each of its code points has some. -/
def encode? (order : ByteOrder) (t : Text) : Option Bytes :=
  List.flatten <$> t.mapM (encodeCharacter? order)

/-- The code point of the number of a unit. -/
def unit (order : ByteOrder) (first second : UInt8) : CodePoint where
  code := order.number [first, second]
  code_lt := by
    have h := order.number_pair_lt first second
    omega

/-- The character of a pair of surrogates, the high one first. -/
def pair? (high low : CodePoint) : Option CodePoint :=
  if h : 0xD800 ≤ high.code ∧ high.code < 0xDC00 ∧ 0xDC00 ≤ low.code ∧ low.code < 0xE000 then
    some ⟨0x10000 + (high.code - 0xD800) * 0x400 + (low.code - 0xDC00), by omega⟩
  else none

/-- The character whose units start the bytes, and the number of bytes after the first that they
take. -/
def sequence? (order : ByteOrder) : Bytes → Option (CodePoint × Nat)
  | first :: second :: bs =>
    let high := unit order first second
    if high.isSurrogate then
      match bs with
      | third :: fourth :: _ => do
        let c ← pair? high (unit order third fourth)
        return (c, 3)
      | _ => none
    else some (high, 1)
  | _ => none

/-- The text of the bytes after the next `skip` of them, if they have one. -/
def decodeAfter? (order : ByteOrder) : (skip : Nat) → Bytes → Option Text
  | _, [] => some []
  | skip + 1, _ :: bs => decodeAfter? order skip bs
  | 0, b :: bs =>
    match sequence? order (b :: bs) with
    | some (c, tails) => do return c :: (← decodeAfter? order tails bs)
    | none => do
      let front ← CodePoint.raw? b
      -- The other byte of the unit is kept along with the first, unless a unit may start with it.
      match bs.head?.bind CodePoint.raw? with
      | some back => return front :: back :: (← decodeAfter? order 1 bs)
      | none => return front :: (← decodeAfter? order 0 bs)

/-- The text of the bytes, if they have one. -/
def decode? (order : ByteOrder) (bs : Bytes) : Option Text :=
  decodeAfter? order 0 bs

end Utf16

end NameOutputs
