import NameOutputs.Text.Basic

/-!
# Numbers in bytes

The bytes of a number are written from either end.
-/

namespace NameOutputs

/-- Which end of a number comes first. -/
inductive ByteOrder
  /-- The most significant byte comes first. -/
  | big
  /-- The least significant byte comes first. -/
  | little
deriving DecidableEq

/-- The `count` low bytes of a number, the least significant first. -/
def lowBytes : (count : Nat) → Nat → Bytes
  | 0, _ => []
  | count + 1, n => UInt8.ofNat (n % 0x100) :: lowBytes count (n / 0x100)

namespace ByteOrder

/-- A number in `count` bytes. -/
def bytes (order : ByteOrder) (count n : Nat) : Bytes :=
  match order with
  | big => (lowBytes count n).reverse
  | little => lowBytes count n

/-- The number that the bytes hold. -/
def number (order : ByteOrder) (bs : Bytes) : Nat :=
  match order with
  | big => bs.foldl (fun n b => n * 0x100 + b.toNat) 0
  | little => bs.foldr (fun b n => n * 0x100 + b.toNat) 0

/-- Two bytes hold a number of sixteen bits. -/
theorem number_pair_lt (order : ByteOrder) (first second : UInt8) :
    order.number [first, second] < 0x10000 := by
  have hfirst := first.toNat_lt
  have hsecond := second.toNat_lt
  cases order <;> simp only [number, List.foldl_cons, List.foldl_nil, List.foldr_cons,
    List.foldr_nil] <;> omega

end ByteOrder

end NameOutputs
