import NameOutputs.Text.ByteOrder

/-!
# Messages cut into blocks

What the digests share: a message is padded to whole blocks of sixty-four bytes, which are read as
sixteen words of thirty-two bits each, in the byte order of the digest.
-/

namespace NameOutputs.Digest

/-- The word turned left by `n` bits. -/
def rotateLeft (x n : UInt32) : UInt32 :=
  (x <<< n) ||| (x >>> (32 - n))

/-- The word turned right by `n` bits. -/
def rotateRight (x n : UInt32) : UInt32 :=
  (x >>> n) ||| (x <<< (32 - n))

/-- The message with a one bit, as many zero bits as make the blocks whole, and the count of its
bits in eight bytes. -/
def padded (order : ByteOrder) (message : Bytes) : Bytes :=
  message ++ 0x80 :: List.replicate ((119 - message.length % 64) % 64) 0
    ++ order.bytes 8 (8 * message.length)

/-- Four bytes a word. -/
def words (order : ByteOrder) : Bytes → List UInt32
  | b₀ :: b₁ :: b₂ :: b₃ :: bs => UInt32.ofNat (order.number [b₀, b₁, b₂, b₃]) :: words order bs
  | _ => []

/-- The blocks of the padded message, sixteen words each. -/
def blocks (order : ByteOrder) (message : Bytes) : List (List UInt32) :=
  let ws := words order (padded order message)
  (List.range (ws.length / 16)).map fun i => (ws.drop (16 * i)).take 16

/-- The bytes of the words. -/
def ofWords (order : ByteOrder) (ws : List UInt32) : Bytes :=
  ws.flatMap fun w => order.bytes 4 w.toNat

end NameOutputs.Digest
