import NameOutputs.Digest.Block

/-!
# RIPEMD-160

The digest runs two lines of eighty steps a block over five words, which differ in the order of the
words, the rotations, the constants and the order of the step functions, and sums them crosswise.
Words and counts have their least significant byte first.
-/

namespace NameOutputs.Digest

namespace Ripemd160

/-- The five working words. -/
structure State where
  a : UInt32
  b : UInt32
  c : UInt32
  d : UInt32
  e : UInt32

/-- The words before the first block. -/
def initial : State :=
  ⟨0x67452301, 0xefcdab89, 0x98badcfe, 0x10325476, 0xc3d2e1f0⟩

/-- A function of three words, one for each sixteen steps. -/
abbrev StepFunction := UInt32 → UInt32 → UInt32 → UInt32

/-- The functions of the left line in their order; the right line takes them backwards. -/
def stepFunctions : List StepFunction :=
  [fun x y z => x ^^^ y ^^^ z,
   fun x y z => (x &&& y) ||| (~~~x &&& z),
   fun x y z => (x ||| ~~~y) ^^^ z,
   fun x y z => (x &&& z) ||| (y &&& ~~~z),
   fun x y z => x ^^^ (y ||| ~~~z)]

/-- The constants of the left line. -/
def leftConstants : List UInt32 :=
  [0x00000000, 0x5a827999, 0x6ed9eba1, 0x8f1bbcdc, 0xa953fd4e]

/-- The constants of the right line. -/
def rightConstants : List UInt32 :=
  [0x50a28be6, 0x5c4dd124, 0x6d703ef3, 0x7a6d76e9, 0x00000000]

/-- The words of the block in the order of the left line. -/
def leftOrder : List Nat :=
  [0, 1, 2, 3, 4, 5, 6, 7, 8, 9, 10, 11, 12, 13, 14, 15,
   7, 4, 13, 1, 10, 6, 15, 3, 12, 0, 9, 5, 2, 14, 11, 8,
   3, 10, 14, 4, 9, 15, 8, 1, 2, 7, 0, 6, 13, 11, 5, 12,
   1, 9, 11, 10, 0, 8, 12, 4, 13, 3, 7, 15, 14, 5, 6, 2,
   4, 0, 5, 9, 7, 12, 2, 10, 14, 1, 3, 8, 11, 6, 15, 13]

/-- The words of the block in the order of the right line. -/
def rightOrder : List Nat :=
  [5, 14, 7, 0, 9, 2, 11, 4, 13, 6, 15, 8, 1, 10, 3, 12,
   6, 11, 3, 7, 0, 13, 5, 10, 14, 15, 8, 12, 4, 9, 1, 2,
   15, 5, 1, 3, 7, 14, 6, 9, 11, 8, 12, 2, 10, 0, 4, 13,
   8, 6, 4, 1, 3, 11, 15, 0, 5, 12, 2, 13, 9, 7, 10, 14,
   12, 15, 10, 4, 1, 5, 8, 7, 6, 2, 13, 14, 0, 3, 9, 11]

/-- The rotations of the left line. -/
def leftRotations : List UInt32 :=
  [11, 14, 15, 12, 5, 8, 7, 9, 11, 13, 14, 15, 6, 7, 9, 8,
   7, 6, 8, 13, 11, 9, 7, 15, 7, 12, 15, 9, 11, 7, 13, 12,
   11, 13, 6, 7, 14, 9, 13, 15, 14, 8, 13, 6, 5, 12, 7, 5,
   11, 12, 14, 15, 14, 15, 9, 8, 9, 14, 5, 6, 8, 6, 5, 12,
   9, 15, 5, 11, 6, 8, 13, 12, 5, 12, 13, 14, 11, 8, 5, 6]

/-- The rotations of the right line. -/
def rightRotations : List UInt32 :=
  [8, 9, 9, 11, 13, 15, 15, 5, 7, 7, 8, 11, 14, 14, 12, 6,
   9, 13, 15, 7, 12, 8, 9, 11, 7, 7, 12, 7, 6, 15, 13, 11,
   9, 7, 15, 11, 8, 6, 6, 14, 12, 13, 5, 14, 13, 13, 7, 5,
   15, 5, 8, 11, 14, 14, 6, 14, 6, 9, 12, 9, 12, 5, 15, 8,
   8, 5, 12, 9, 12, 5, 14, 6, 8, 13, 6, 5, 15, 13, 11, 11]

/-- One step, with its function, constant, word and rotation. -/
def step (f : StepFunction) (k x r : UInt32) (s : State) : State :=
  let t := rotateLeft (s.a + f s.b s.c s.d + x + k) r + s.e
  ⟨s.e, t, s.b, rotateLeft s.c 10, s.d⟩

/-- The eighty steps of a line on a block. -/
def line (functions : List StepFunction) (constants rotations : List UInt32) (order : List Nat)
    (block : List UInt32) (s : State) : State :=
  (List.range 80).foldl (fun s j =>
    step (functions.getD (j / 16) fun x _ _ => x) (constants.getD (j / 16) 0)
      (block.getD (order.getD j 0) 0) (rotations.getD j 0) s) s

/-- The words after a block. -/
def compress (s : State) (block : List UInt32) : State :=
  let l := line stepFunctions leftConstants leftRotations leftOrder block s
  let r := line stepFunctions.reverse rightConstants rightRotations rightOrder block s
  ⟨s.b + l.c + r.d, s.c + l.d + r.e, s.d + l.e + r.a, s.e + l.a + r.b, s.a + l.b + r.c⟩

end Ripemd160

/-- The RIPEMD-160 digest of a message, twenty bytes. -/
def ripemd160 (message : Bytes) : Bytes :=
  let s := (blocks .little message).foldl Ripemd160.compress Ripemd160.initial
  ofWords .little [s.a, s.b, s.c, s.d, s.e]

end NameOutputs.Digest
