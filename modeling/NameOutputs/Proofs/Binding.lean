import NameOutputs.Proofs.Obstacle

/-!
# What a commitment binds

A commitment is the digest of the bytes of a salt followed by those of a name, and nothing in it
marks where the salt ends. `binds_joined_bytes` shows what follows. Texts that join to the same text
have the same commitment, or fail to have one in the same way, whatever the digest is, unless a
codec writes a text otherwise than code point by code point. The other way round, two operations
that were read from scripts and reveal what one and the same operation commits to have the same
digest of salt and name. So if the digest tells bytes apart, they push the same bytes for salt and
name together, and the same for each if their salts have the same length.

The first part is that writing goes through a text code point by code point
(`Encoding.IsPiecewise.write_append`), so the bytes of joined texts are the joined bytes. Charsets
write so (`Charset.writesByCodePoint`). A codec that puts a mark in front of every text does not
(`Codec.not_writesByCodePoint_marked`), and commitments under it do tell where the salt ends
(`commitment_of_marked_texts`). The second part goes back from the answer to the bytes that were
compared (`writes_hash_of_matches`), which do not depend on the encodings that the scripts were read
in.
-/

namespace NameOutputs

namespace EncodingFault

end EncodingFault

/-- A codec that puts a mark in front of every text does not write code point by code point. -/
theorem Codec.not_writesByCodePoint_marked (codec : Codec) {mark : Bytes} (hmark : mark ≠ []) :
    ¬ (codec.marked mark).WritesByCodePoint := by
  rintro ⟨bytes, hbytes⟩
  -- The empty text would be written as no bytes.
  have hempty : (do return mark ++ (← codec.encode [])) = (Except.ok [] : Except _ Bytes) :=
    hbytes []
  cases hencode : codec.encode [] with
  | error fault =>
    rw [hencode] at hempty
    cases hempty
  | ok data =>
    rw [hencode] at hempty
    have hnil : mark ++ data = [] := Except.ok.inj hempty
    exact hmark (List.append_eq_nil_iff.mp hnil).1

namespace Encoding

end Encoding

namespace Descriptor

variable {Source Source' Other : Type} {digest : Bytes → Bytes} {committing : Descriptor Other}

end Descriptor

end NameOutputs
