import NameOutputs.Text.Basic

/-!
# UTF-8

A character is written as one to four bytes, a lead byte and continuation bytes, in the shortest
form that holds its number; surrogates are not written at all. Reading is total: where a well-formed
sequence starts, its character is read, and any other byte is kept as a raw code point. A byte that
can only continue a sequence never starts one, so keeping the bytes of a broken sequence one by one
takes nothing away from what follows it.
-/

namespace NameOutputs.Utf8

/-- The continuation bytes that the shortest form of a number needs. -/
def tailCount (code : Nat) : Nat :=
  if code < 0x80 then 0 else if code < 0x800 then 1 else if code < 0x10000 then 2 else 3

/-- The continuation byte that holds the six low bits of a number. -/
def tailByte (n : Nat) : UInt8 :=
  UInt8.ofNat (0x80 + n % 0x40)

/-- The bytes of a character. -/
def encode (c : CodePoint) : Bytes :=
  if c.code < 0x80 then [UInt8.ofNat c.code]
  else if c.code < 0x800 then [UInt8.ofNat (0xC0 + c.code / 0x40), tailByte c.code]
  else if c.code < 0x10000 then
    [UInt8.ofNat (0xE0 + c.code / 0x1000), tailByte (c.code / 0x40), tailByte c.code]
  else
    [UInt8.ofNat (0xF0 + c.code / 0x40000), tailByte (c.code / 0x1000), tailByte (c.code / 0x40),
      tailByte c.code]

/-- Whether a byte can only continue a sequence. -/
def isTail (b : UInt8) : Bool :=
  0x80 ≤ b.toNat && b.toNat < 0xC0

/-- What a lead byte says: the bits of the number that it holds, and the continuation bytes that
it calls for. -/
def lead? (b : UInt8) : Option (Nat × Nat) :=
  if b.toNat < 0x80 then some (b.toNat, 0)
  else if b.toNat < 0xC0 then none
  else if b.toNat < 0xE0 then some (b.toNat - 0xC0, 1)
  else if b.toNat < 0xF0 then some (b.toNat - 0xE0, 2)
  else if b.toNat < 0xF8 then some (b.toNat - 0xF0, 3)
  else none

/-- The number that `bits` become when the next `tails` bytes, each of them a continuation byte,
add six bits each. -/
def extend? (bits : Nat) : (tails : Nat) → Bytes → Option Nat
  | 0, _ => some bits
  | _ + 1, [] => none
  | tails + 1, b :: bs =>
    if isTail b then extend? (bits * 0x40 + (b.toNat - 0x80)) tails bs else none

/-- The character of a number that `tails` continuation bytes spell: the number has to be that of a
character, and no shorter form may hold it. -/
def character? (code tails : Nat) : Option CodePoint :=
  if h : code < 0x110000 then
    let c : CodePoint := ⟨code, h⟩
    -- More continuation bytes than the number needs make an overlong form.
    if tails = tailCount code ∧ ¬ c.isSurrogate then some c else none
  else none

/-- The character whose well-formed sequence starts the bytes, and the number of continuation bytes
of that sequence. -/
def sequence? : Bytes → Option (CodePoint × Nat)
  | [] => none
  | b :: bs => do
    let (bits, tails) ← lead? b
    let code ← extend? bits tails bs
    let c ← character? code tails
    return (c, tails)

/-- The text of the bytes after the next `skip` of them. -/
def decodeAfter : (skip : Nat) → Bytes → Text
  | _, [] => []
  | skip + 1, _ :: bs => decodeAfter skip bs
  | 0, b :: bs =>
    match sequence? (b :: bs) with
    -- The lead byte is `b` itself, so only the continuation bytes are left to skip.
    | some (c, tails) => c :: decodeAfter tails bs
    | none => .ofRawByte b :: decodeAfter 0 bs

/-- The text of the bytes. -/
def decode (bs : Bytes) : Text :=
  decodeAfter 0 bs

/-- Skipping bytes is dropping them. -/
theorem decodeAfter_eq_decode_drop (skip : Nat) (bs : Bytes) :
    decodeAfter skip bs = decode (bs.drop skip) := by
  induction bs generalizing skip with
  | nil => cases skip <;> rfl
  | cons b bs ih =>
    cases skip with
    | zero => rfl
    | succ skip => simpa [decodeAfter] using ih skip

/-- No bytes have the empty text. -/
@[simp] theorem decode_nil : decode [] = [] := rfl

/-- A well-formed sequence is read as its character. -/
theorem decode_of_sequence? {b : UInt8} {bs : Bytes} {c : CodePoint} {tails : Nat}
    (h : sequence? (b :: bs) = some (c, tails)) :
    decode (b :: bs) = c :: decode (bs.drop tails) := by
  simp only [decode, decodeAfter, h]
  exact congrArg _ (decodeAfter_eq_decode_drop tails bs)

/-- A byte that starts no well-formed sequence is kept on its own. -/
theorem decode_of_sequence?_eq_none {b : UInt8} {bs : Bytes} (h : sequence? (b :: bs) = none) :
    decode (b :: bs) = .ofRawByte b :: decode bs := by
  simp only [decode, decodeAfter, h]

end NameOutputs.Utf8
