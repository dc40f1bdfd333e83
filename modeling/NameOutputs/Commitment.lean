import NameOutputs.Descriptor
import NameOutputs.Digest.Hash160

/-!
# Commitments

A name is committed to by the digest of a salt followed by the name, which are revealed later. The
digest may be any function on bytes; scripts use `Digest.hash160`.
-/

namespace NameOutputs

/-- The text that commits to the name under the salt. -/
def commitment (digest : Bytes → Bytes) (encoding : Encoding) (salt name : Text) :
    Except EncodingFault Text := do
  let saltBytes ← encoding.write salt
  let nameBytes ← encoding.write name
  encoding.read (some (digest (saltBytes ++ nameBytes)))

/-- Whether the operation reveals what the other one commits to. The bytes are compared, since the
two may have different encodings. -/
def Descriptor.matchesCommitment {Source Other : Type} (digest : Bytes → Bytes)
    (revealing : Descriptor Source) (committing : Descriptor Other) : Except Fault Bool := do
  let salt ← revealing.operation.part .salt
  let name ← revealing.operation.part .name
  let revealed ← (commitment digest revealing.encoding salt name).mapError .encoding
  let revealedBytes ← (revealing.encoding.write revealed).mapError .encoding
  -- The other operation is looked at last, after all that may fail on this side.
  let committed ← committing.operation.part .hash
  let committedBytes ← (committing.encoding.write committed).mapError .encoding
  return revealedBytes = committedBytes

end NameOutputs
