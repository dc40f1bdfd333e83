import NameOutputs.Digest.Ripemd160
import NameOutputs.Digest.Sha256

/-!
# The digest of addresses and name commitments
-/

namespace NameOutputs.Digest

/-- The RIPEMD-160 digest of the SHA-256 digest. -/
def hash160 (message : Bytes) : Bytes :=
  ripemd160 (sha256 message)

end NameOutputs.Digest
