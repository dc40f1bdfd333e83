import Mathlib.Order.Bounds.Basic
import NameOutputs.Proofs.Commitment
import NameOutputs.Proofs.Text.Survival

/-!
# What stands in the way of a comparison

Whether one operation reveals what another commits to can be asked of any two descriptors, also of
ones that were made of texts by hand. Then there need not be an answer: an operation may be of the
wrong kind, an encoding may be unknown, a text may have no bytes, and a codec may fail for reasons
of its own. `Descriptor.Obstacle` says of each of these by itself when it stands in the way, and
gives it a place. `matchesCommitment_fails_by_first_obstacle` shows that the comparison fails with
the obstacle that has the least place, and that without any obstacle it compares the bytes.

The comparison is cut into the bytes that are revealed and those that are committed to
(`matchesCommitment_eq`). The digest is turned into a text and written again on the way. Under a
charset that is no obstacle: what was read from bytes is written as these bytes (`rewrite_known`).
Another codec may fail at it, and it may write other bytes than it read, as
`matchesCommitment_of_marked_digest` shows for a codec that puts a mark in front.
-/

namespace NameOutputs

/-- Faults may be turned into others at each step of a computation or at its end. -/
theorem mapError_bind {ε ε' α β : Type} (x : Except ε α) (f : α → Except ε β) (g : ε → ε') :
    (x >>= f).mapError g = x.mapError g >>= fun a => (f a).mapError g := by
  cases x <;> rfl

/-- The charset has bytes for the code point: it is the number of one of its characters, or raw. -/
def Charset.Covers : Charset → CodePoint → Prop
  | latin1, c => c.code ≤ 0xFF ∨ 0xDC80 ≤ c.code ∧ c.code ≤ 0xDCFF
  | ascii, c => c.code ≤ 0x7F ∨ 0xDC80 ≤ c.code ∧ c.code ≤ 0xDCFF
  | utf8, c => c.isSurrogate = true → 0xDC80 ≤ c.code ∧ c.code ≤ 0xDCFF

/-- A code point is covered by a charset that has bytes for it as a character, and a raw one by any.
-/
theorem Charset.covers_iff {charset : Charset} {c : CodePoint} :
    charset.Covers c ↔
      (∃ run, charset.encodeCharacter? c = some run) ∨ 0xDC80 ≤ c.code ∧ c.code ≤ 0xDCFF := by
  cases charset with
  | latin1 => simp only [Covers, encodeCharacter?_latin1_iff, exists_and_left, exists_eq', and_true]
  | ascii => simp only [Covers, encodeCharacter?_ascii_iff, exists_and_left, exists_eq', and_true]
  | utf8 =>
    simp only [Covers, encodeCharacter?_utf8_iff, exists_and_left, exists_eq', and_true,
      ← Bool.not_eq_true, ← imp_iff_not_or]

namespace Encoding

/-- Under a charset a text is written if the charset covers it, and fails in one way if not. -/
theorem write_known_cases (charset : Charset) (t : Text) :
    (∃ c ∈ t, ¬ charset.Covers c) ∧ (known charset).write t = .error .unencodable ∨
      (∀ c ∈ t, charset.Covers c) ∧ ∃ data, (known charset).write t = .ok data := by
  have hcovers : (∃ data, (known charset).write t = .ok data) ↔ ∀ c ∈ t, charset.Covers c := by
    simp only [exists_write_known_iff, Charset.covers_iff]
  by_cases h : ∀ c ∈ t, charset.Covers c
  · exact .inr ⟨h, hcovers.mpr h⟩
  · have hnone : charset.encode? t = none := by
      rw [Option.eq_none_iff_forall_ne_some]
      exact fun data hdata => h (hcovers.mp ⟨data, write_known_eq_ok_iff.mpr hdata⟩)
    simp only [not_forall, exists_prop] at h
    exact .inl ⟨h, write_known_of_encode?_eq_none hnone⟩

/-- What the text of data is written as, which need not be the data. -/
def rewrite (encoding : Encoding) (data : Bytes) : Except EncodingFault Bytes := do
  encoding.write (← encoding.read (some data))

/-- Under a charset the text of data is written as these data. -/
theorem rewrite_known (charset : Charset) (data : Bytes) :
    (known charset).rewrite data = .ok data := by
  unfold rewrite
  rw [read_known]
  exact write_known_decode charset data

end Encoding

namespace Descriptor

variable {Source Other : Type}

/-- The part of the operation is written as the data. -/
def Writes (d : Descriptor Source) (p : Operation.Part) (data : Bytes) : Prop :=
  ∃ t, d.operation.part? p = some t ∧ d.encoding.write t = .ok data

/-- A part is written as one row of bytes at most. -/
theorem Writes.unique {d : Descriptor Source} {p : Operation.Part} {data data' : Bytes}
    (h : d.Writes p data) (h' : d.Writes p data') : data = data' := by
  obtain ⟨t, ht, hdata⟩ := h
  obtain ⟨t', ht', hdata'⟩ := h'
  obtain rfl := Option.some.inj (ht.symm.trans ht')
  exact Except.ok.inj (hdata.symm.trans hdata')

/-- The part of the operation is not written, for a reason that its codec has. -/
def Refuses (d : Descriptor Source) (p : Operation.Part) (fault : EncodingFault) : Prop :=
  ∃ codec t, d.encoding = .other codec ∧ d.operation.part? p = some t ∧
    codec.encode t = .error fault

/-- The codec has one reason at most. -/
theorem Refuses.unique {d : Descriptor Source} {p : Operation.Part} {fault fault' : EncodingFault}
    (h : d.Refuses p fault) (h' : d.Refuses p fault') : fault = fault' := by
  obtain ⟨codec, t, hcodec, ht, hfault⟩ := h
  obtain ⟨codec', t', hcodec', ht', hfault'⟩ := h'
  obtain rfl := Encoding.other.inj (hcodec.symm.trans hcodec')
  obtain rfl := Option.some.inj (ht.symm.trans ht')
  exact Except.error.inj (hfault.symm.trans hfault')

/-- A charset refuses nothing. -/
theorem Refuses.ne_known {d : Descriptor Source} {p : Operation.Part} {fault : EncodingFault}
    (h : d.Refuses p fault) (charset : Charset) : d.encoding ≠ .known charset := by
  obtain ⟨codec, t, hcodec, -⟩ := h
  rw [hcodec]
  exact nofun

/-- What its codec refuses to write is not written. -/
theorem Refuses.not_writes {d : Descriptor Source} {p : Operation.Part} {fault : EncodingFault}
    {data : Bytes} (h : d.Refuses p fault) : ¬ d.Writes p data := by
  obtain ⟨codec, t, hcodec, ht, hfault⟩ := h
  rintro ⟨t', ht', hdata⟩
  obtain rfl := Option.some.inj (ht.symm.trans ht')
  rw [hcodec] at hdata
  cases hfault.symm.trans hdata

/-- What can stand in the way of comparing what one operation reveals with what the other commits
to, each by itself, with its place in the order of precedence. -/
inductive Obstacle (digest : Bytes → Bytes) (revealing : Descriptor Source)
    (committing : Descriptor Other) : Nat → Fault → Prop
  /-- The first operation reveals nothing. -/
  | noSalt : revealing.operation.kind ≠ .firstUpdate →
    Obstacle digest revealing committing 0 (.misused .salt)
  /-- Its encoding is unknown. -/
  | unknownEncoding {label : String} : revealing.encoding = .unknown label →
    Obstacle digest revealing committing 1 (.encoding (.unknownEncoding label))
  /-- Its encoding is a charset, and its salt or its name has a code point without bytes. -/
  | unencodable {charset : Charset} {p : Operation.Part} {t : Text} {c : CodePoint} :
    revealing.encoding = .known charset → p = .salt ∨ p = .name →
    revealing.operation.part? p = some t → c ∈ t → ¬ charset.Covers c →
    Obstacle digest revealing committing 2 (.encoding .unencodable)
  /-- Its encoding is another codec, which does not write its salt. -/
  | refusedSalt {fault : EncodingFault} : revealing.Refuses .salt fault →
    Obstacle digest revealing committing 2 (.encoding fault)
  /-- Its encoding is another codec, which does not write its name. -/
  | refusedName {fault : EncodingFault} : revealing.Refuses .name fault →
    Obstacle digest revealing committing 3 (.encoding fault)
  /-- Its encoding is another codec, which does not read the digest of salt and name or does not
  write what it read. -/
  | refusedDigest {codec : Codec} {salt name : Bytes} {fault : EncodingFault} :
    revealing.encoding = .other codec → revealing.Writes .salt salt →
    revealing.Writes .name name →
    revealing.encoding.rewrite (digest (salt ++ name)) = .error fault →
    Obstacle digest revealing committing 4 (.encoding fault)
  /-- The second operation commits to nothing. -/
  | noHash : committing.operation.kind ≠ .new →
    Obstacle digest revealing committing 5 (.misused .hash)
  /-- Its encoding is unknown. -/
  | unknownOtherEncoding {label : String} : committing.encoding = .unknown label →
    Obstacle digest revealing committing 6 (.encoding (.unknownEncoding label))
  /-- Its encoding is a charset, and its hash has a code point without bytes. -/
  | unencodableHash {charset : Charset} {t : Text} {c : CodePoint} :
    committing.encoding = .known charset → committing.operation.part? .hash = some t → c ∈ t →
    ¬ charset.Covers c → Obstacle digest revealing committing 7 (.encoding .unencodable)
  /-- Its encoding is another codec, which does not write its hash. -/
  | refusedHash {fault : EncodingFault} : committing.Refuses .hash fault →
    Obstacle digest revealing committing 7 (.encoding fault)

/-- The places at which something stands in the way. -/
def obstructed (digest : Bytes → Bytes) (revealing : Descriptor Source)
    (committing : Descriptor Other) : Set Nat :=
  {place | ∃ fault, Obstacle digest revealing committing place fault}

/-- The bytes that the operation reveals, by way of the text that would commit to them. -/
def revealedBytes (digest : Bytes → Bytes) (d : Descriptor Source) : Except Fault Bytes := do
  let salt ← d.operation.part .salt
  let name ← d.operation.part .name
  let revealed ← (commitment digest d.encoding salt name).mapError .encoding
  (d.encoding.write revealed).mapError .encoding

/-- The bytes that the operation commits to. -/
def committedBytes (d : Descriptor Source) : Except Fault Bytes := do
  let committed ← d.operation.part .hash
  (d.encoding.write committed).mapError .encoding

variable {digest : Bytes → Bytes} {revealing : Descriptor Source} {committing : Descriptor Other}

/-- The bytes of both sides are compared, and those that are revealed are asked for first. -/
theorem matchesCommitment_eq (digest : Bytes → Bytes) (revealing : Descriptor Source)
    (committing : Descriptor Other) :
    revealing.matchesCommitment digest committing = do
      let revealed ← revealing.revealedBytes digest
      let committed ← committing.committedBytes
      return revealed = committed := by
  unfold matchesCommitment revealedBytes committedBytes
  simp only [bind_assoc]

/-- An operation that reveals a name writes salt and name, and rewrites the digest of these. -/
theorem revealedBytes_firstUpdate (digest : Bytes → Bytes) (encoding : Encoding)
    (name salt value : Text) (source : Source) :
    revealedBytes digest ⟨.firstUpdate name salt value, encoding, source⟩ =
      (do
        let saltBytes ← encoding.write salt
        let nameBytes ← encoding.write name
        encoding.rewrite (digest (saltBytes ++ nameBytes))).mapError Fault.encoding := by
  have hrevealed : revealedBytes digest ⟨.firstUpdate name salt value, encoding, source⟩ =
      (commitment digest encoding salt name).mapError Fault.encoding >>= fun revealed =>
        (encoding.write revealed).mapError Fault.encoding := rfl
  rw [hrevealed, ← mapError_bind]
  unfold commitment Encoding.rewrite
  simp only [bind_assoc]

/-- At each place one thing at most stands in the way. -/
theorem Obstacle.eq {place : Nat} {fault other : Fault}
    (h : Obstacle digest revealing committing place fault)
    (h' : Obstacle digest revealing committing place other) : fault = other := by
  cases h with
  | unknownEncoding hlabel =>
    cases h' with
    | unknownEncoding hlabel' => rw [Encoding.unknown.inj (hlabel.symm.trans hlabel')]
  | unencodable hcharset =>
    cases h' with
    | unencodable => rfl
    | refusedSalt hrefuses => exact absurd hcharset (hrefuses.ne_known _)
  | refusedSalt hrefuses =>
    cases h' with
    | unencodable hcharset => exact absurd hcharset (hrefuses.ne_known _)
    | refusedSalt hrefuses' => rw [hrefuses.unique hrefuses']
  | refusedName hrefuses =>
    cases h' with
    | refusedName hrefuses' => rw [hrefuses.unique hrefuses']
  | refusedDigest _ hsalt hname hfault =>
    cases h' with
    | refusedDigest _ hsalt' hname' hfault' =>
      obtain rfl := hsalt.unique hsalt'
      obtain rfl := hname.unique hname'
      rw [Except.error.inj (hfault.symm.trans hfault')]
  | unknownOtherEncoding hlabel =>
    cases h' with
    | unknownOtherEncoding hlabel' => rw [Encoding.unknown.inj (hlabel.symm.trans hlabel')]
  | unencodableHash hcharset =>
    cases h' with
    | unencodableHash => rfl
    | refusedHash hrefuses => exact absurd hcharset (hrefuses.ne_known _)
  | refusedHash hrefuses =>
    cases h' with
    | unencodableHash hcharset => exact absurd hcharset (hrefuses.ne_known _)
    | refusedHash hrefuses' => rw [hrefuses.unique hrefuses']
  | noSalt | noHash => cases h'; rfl

/-- What stands in the way at the first place that is obstructed. -/
def FirstObstacle (digest : Bytes → Bytes) (revealing : Descriptor Source)
    (committing : Descriptor Other) (fault : Fault) : Prop :=
  ∃ place, IsLeast (obstructed digest revealing committing) place ∧
    Obstacle digest revealing committing place fault

/-- There is one first obstacle at most. -/
theorem FirstObstacle.eq {fault other : Fault}
    (h : FirstObstacle digest revealing committing fault)
    (h' : FirstObstacle digest revealing committing other) : fault = other := by
  obtain ⟨place, hleast, hfault⟩ := h
  obtain ⟨place', hleast', hother⟩ := h'
  obtain rfl : place = place' := hleast.unique hleast'
  exact hfault.eq hother

/-- The first obstacle is the one that no other has a place before. -/
theorem firstObstacle_iff {fault : Fault} :
    FirstObstacle digest revealing committing fault ↔
      ∃ place, Obstacle digest revealing committing place fault ∧
        ∀ place' fault', Obstacle digest revealing committing place' fault' → place ≤ place' := by
  constructor
  · rintro ⟨place, ⟨-, hleast⟩, h⟩
    exact ⟨place, h, fun place' fault' h' => hleast ⟨fault', h'⟩⟩
  · rintro ⟨place, h, hleast⟩
    exact ⟨place, ⟨⟨fault, h⟩, fun place' ⟨fault', h'⟩ => hleast place' fault' h'⟩, h⟩

/-- An obstacle is the first if no earlier place is obstructed. -/
theorem Obstacle.first {place : Nat} {fault : Fault}
    (h : Obstacle digest revealing committing place fault)
    (hclear : place ∈ lowerBounds (obstructed digest revealing committing)) :
    FirstObstacle digest revealing committing fault :=
  ⟨place, ⟨⟨fault, h⟩, hclear⟩, h⟩

/-- The way is clear by one more place if nothing stands there. -/
theorem clear_succ {place : Nat}
    (hclear : place ∈ lowerBounds (obstructed digest revealing committing))
    (hfree : ∀ fault, ¬ Obstacle digest revealing committing place fault) :
    place + 1 ∈ lowerBounds (obstructed digest revealing committing) := by
  rintro found ⟨fault, hfault⟩
  have hle : place ≤ found := hclear ⟨fault, hfault⟩
  have hne : place ≠ found := by
    rintro rfl
    exact hfree fault hfault
  omega

/-- How revealing bytes comes out: it fails with the first obstacle, or it leaves the first five
places clear. -/
inductive RevealOutcome (digest : Bytes → Bytes) (revealing : Descriptor Source)
    (committing : Descriptor Other) : Prop
  /-- There are no bytes. -/
  | fails {fault : Fault} : revealing.revealedBytes digest = .error fault →
    FirstObstacle digest revealing committing fault → RevealOutcome digest revealing committing
  /-- The bytes are what the digest of salt and name is rewritten as. -/
  | reveals {salt name revealed : Bytes} : revealing.Writes .salt salt →
    revealing.Writes .name name →
    revealing.encoding.rewrite (digest (salt ++ name)) = .ok revealed →
    revealing.revealedBytes digest = .ok revealed →
    5 ∈ lowerBounds (obstructed digest revealing committing) →
    RevealOutcome digest revealing committing

section Steps

variable {name salt value : Text} {source : Source}

/-- Under a charset, revealing bytes fails at the third place, or leaves none of the first five
obstructed. -/
theorem revealedBytes_known_step {charset : Charset}
    (hclear₂ : 2 ∈ lowerBounds (obstructed digest
      ⟨.firstUpdate name salt value, .known charset, source⟩ committing)) :
    RevealOutcome digest ⟨.firstUpdate name salt value, .known charset, source⟩ committing := by
  have hbytes := revealedBytes_firstUpdate digest (.known charset) name salt value source
  rcases Encoding.write_known_cases charset salt with
    ⟨⟨c, hc, hlacks⟩, hsalt⟩ | ⟨hsaltCovered, saltBytes, hsalt⟩
  · rw [hsalt] at hbytes
    exact .fails hbytes ((Obstacle.unencodable rfl (.inl rfl) rfl hc hlacks).first hclear₂)
  rcases Encoding.write_known_cases charset name with
    ⟨⟨c, hc, hlacks⟩, hname⟩ | ⟨hnameCovered, nameBytes, hname⟩
  · rw [hsalt, hname] at hbytes
    exact .fails hbytes ((Obstacle.unencodable rfl (.inr rfl) rfl hc hlacks).first hclear₂)
  have hrewrite := Encoding.rewrite_known charset (digest (saltBytes ++ nameBytes))
  rw [hsalt, hname] at hbytes
  refine .reveals ⟨salt, rfl, hsalt⟩ ⟨name, rfl, hname⟩ hrewrite
    (hbytes.trans (congrArg (Except.mapError Fault.encoding) hrewrite)) ?_
  rintro found ⟨fault, hfault⟩
  have hle : 2 ≤ found := hclear₂ ⟨fault, hfault⟩
  cases hfault with
  | unencodable hcharset hp hpart hc hlacks =>
    obtain rfl := Encoding.known.inj hcharset
    rcases hp with rfl | rfl
    · obtain rfl := Option.some.inj hpart
      exact absurd (hsaltCovered _ hc) hlacks
    · obtain rfl := Option.some.inj hpart
      exact absurd (hnameCovered _ hc) hlacks
  | refusedSalt hrefuses | refusedName hrefuses => exact absurd rfl (hrefuses.ne_known charset)
  | refusedDigest hcodec => cases hcodec
  | _ => omega

/-- Under another codec, revealing bytes fails at one of the third to fifth places, or leaves none
of them obstructed. -/
theorem revealedBytes_other_step {codec : Codec}
    (hclear₂ : 2 ∈ lowerBounds (obstructed digest
      ⟨.firstUpdate name salt value, .other codec, source⟩ committing)) :
    RevealOutcome digest ⟨.firstUpdate name salt value, .other codec, source⟩ committing := by
  have hbytes := revealedBytes_firstUpdate digest (.other codec) name salt value source
  cases hsalt : (Encoding.other codec).write salt with
  | error fault =>
    rw [hsalt] at hbytes
    exact .fails hbytes ((Obstacle.refusedSalt ⟨codec, salt, rfl, rfl, hsalt⟩).first hclear₂)
  | ok saltBytes =>
  have hsaltWrites : Writes ⟨.firstUpdate name salt value, .other codec, source⟩ .salt saltBytes :=
    ⟨salt, rfl, hsalt⟩
  have hclear₃ := clear_succ hclear₂ fun fault h => by
    cases h with
    | unencodable hcharset => cases hcharset
    | refusedSalt hrefuses => exact hrefuses.not_writes hsaltWrites
  cases hname : (Encoding.other codec).write name with
  | error fault =>
    rw [hsalt, hname] at hbytes
    exact .fails hbytes ((Obstacle.refusedName ⟨codec, name, rfl, rfl, hname⟩).first hclear₃)
  | ok nameBytes =>
  have hnameWrites : Writes ⟨.firstUpdate name salt value, .other codec, source⟩ .name nameBytes :=
    ⟨name, rfl, hname⟩
  have hclear₄ := clear_succ hclear₃ fun fault h => by
    cases h with
    | refusedName hrefuses => exact hrefuses.not_writes hnameWrites
  rw [hsalt, hname] at hbytes
  cases hrewrite : (Encoding.other codec).rewrite (digest (saltBytes ++ nameBytes)) with
  | error fault =>
    refine .fails (hbytes.trans (congrArg (Except.mapError Fault.encoding) hrewrite)) ?_
    exact (Obstacle.refusedDigest rfl hsaltWrites hnameWrites hrewrite).first hclear₄
  | ok revealed =>
  have hclear₅ := clear_succ hclear₄ fun fault h => by
    cases h with
    | refusedDigest _ hsalt' hname' hfault =>
      obtain rfl := hsaltWrites.unique hsalt'
      obtain rfl := hnameWrites.unique hname'
      cases hrewrite.symm.trans hfault
  exact .reveals hsaltWrites hnameWrites hrewrite
    (hbytes.trans (congrArg (Except.mapError Fault.encoding) hrewrite)) hclear₅

/-- Revealing bytes fails with the first obstacle, or leaves none at the first five places. -/
theorem revealedBytes_step (digest : Bytes → Bytes) (revealing : Descriptor Source)
    (committing : Descriptor Other) :
    RevealOutcome digest revealing committing := by
  have hclear₀ : 0 ∈ lowerBounds (obstructed digest revealing committing) := fun place _ =>
    Nat.zero_le place
  obtain ⟨operation, encoding, source⟩ := revealing
  cases operation with
  | new | update => exact .fails rfl ((Obstacle.noSalt (by simp [Operation.kind])).first hclear₀)
  | firstUpdate name salt value =>
    have hclear₁ := clear_succ hclear₀ fun fault h => by
      cases h with | noSalt hkind => exact hkind rfl
    cases encoding with
    | unknown label => exact .fails rfl ((Obstacle.unknownEncoding rfl).first hclear₁)
    | known charset =>
      have hclear₂ := clear_succ hclear₁ fun fault h => by
        cases h with | unknownEncoding hlabel => cases hlabel
      exact revealedBytes_known_step hclear₂
    | other codec =>
      have hclear₂ := clear_succ hclear₁ fun fault h => by
        cases h with | unknownEncoding hlabel => cases hlabel
      exact revealedBytes_other_step hclear₂

/-- Once the first five places are clear, finding the bytes that are committed to fails with the
first obstacle, or leaves none. -/
theorem committedBytes_step
    (hclear₅ : 5 ∈ lowerBounds (obstructed digest revealing committing)) :
    (∃ fault, committing.committedBytes = .error fault ∧
        FirstObstacle digest revealing committing fault) ∨
      ∃ hash, committing.Writes .hash hash ∧ committing.committedBytes = .ok hash ∧
        8 ∈ lowerBounds (obstructed digest revealing committing) := by
  obtain ⟨operation, encoding, source⟩ := committing
  cases operation with
  | firstUpdate | update =>
    exact .inl ⟨_, rfl, (Obstacle.noHash (by simp [Operation.kind])).first hclear₅⟩
  | new hash =>
    have hclear₆ := clear_succ hclear₅ fun fault h => by
      cases h with | noHash hkind => exact hkind rfl
    have hbytes : committedBytes ⟨.new hash, encoding, source⟩ =
        (encoding.write hash).mapError .encoding := rfl
    cases encoding with
    | unknown label => exact .inl ⟨_, rfl, (Obstacle.unknownOtherEncoding rfl).first hclear₆⟩
    | known charset =>
      have hclear₇ := clear_succ hclear₆ fun fault h => by
        cases h with | unknownOtherEncoding hlabel => cases hlabel
      rcases Encoding.write_known_cases charset hash with
        ⟨⟨c, hc, hlacks⟩, hhash⟩ | ⟨hcovered, hashBytes, hhash⟩
      · rw [hhash] at hbytes
        exact .inl ⟨_, hbytes, (Obstacle.unencodableHash rfl rfl hc hlacks).first hclear₇⟩
      have hclear₈ := clear_succ hclear₇ fun fault h => by
        cases h with
        | unencodableHash hcharset hpart hc hlacks =>
          obtain rfl := Encoding.known.inj hcharset
          obtain rfl := Option.some.inj hpart
          exact hlacks (hcovered _ hc)
        | refusedHash hrefuses => exact hrefuses.ne_known charset rfl
      rw [hhash] at hbytes
      exact .inr ⟨hashBytes, ⟨hash, rfl, hhash⟩, hbytes, hclear₈⟩
    | other codec =>
      have hclear₇ := clear_succ hclear₆ fun fault h => by
        cases h with | unknownOtherEncoding hlabel => cases hlabel
      cases hhash : (Encoding.other codec).write hash with
      | error fault =>
        rw [hhash] at hbytes
        have hrefuses : Refuses ⟨.new hash, .other codec, source⟩ .hash fault :=
          ⟨codec, hash, rfl, rfl, hhash⟩
        exact .inl ⟨_, hbytes, (Obstacle.refusedHash hrefuses).first hclear₇⟩
      | ok hashBytes =>
      have hhashWrites : Writes ⟨.new hash, .other codec, source⟩ .hash hashBytes :=
        ⟨hash, rfl, hhash⟩
      have hclear₈ := clear_succ hclear₇ fun fault h => by
        cases h with
        | unencodableHash hcharset => cases hcharset
        | refusedHash hrefuses => exact hrefuses.not_writes hhashWrites
      rw [hhash] at hbytes
      exact .inr ⟨hashBytes, hhashWrites, hbytes, hclear₈⟩

end Steps

/-- Beyond the eighth place there is no obstacle. -/
theorem not_obstacle_of_clear
    (hclear₈ : 8 ∈ lowerBounds (obstructed digest revealing committing))
    (place : Nat) (fault : Fault) : ¬ Obstacle digest revealing committing place fault := by
  intro h
  have hle : 8 ≤ place := hclear₈ ⟨fault, h⟩
  cases h <;> omega

/-- The comparison fails with the first obstacle, or there is none and it compares the bytes. -/
theorem matchesCommitment_cases (digest : Bytes → Bytes) (revealing : Descriptor Source)
    (committing : Descriptor Other) :
    (∃ fault, revealing.matchesCommitment digest committing = .error fault ∧
        FirstObstacle digest revealing committing fault) ∨
      (∀ place fault, ¬ Obstacle digest revealing committing place fault) ∧
        ∃ salt name hash revealed, revealing.Writes .salt salt ∧ revealing.Writes .name name ∧
          committing.Writes .hash hash ∧
          revealing.encoding.rewrite (digest (salt ++ name)) = .ok revealed ∧
          revealing.matchesCommitment digest committing = .ok (decide (hash = revealed)) := by
  rw [matchesCommitment_eq]
  cases revealedBytes_step digest revealing committing with
  | @fails fault hbytes hfirst =>
    rw [hbytes]
    exact .inl ⟨fault, rfl, hfirst⟩
  | @reveals salt name revealed hsalt hname hrewrite hbytes hclear₅ =>
  rcases committedBytes_step hclear₅ with
    ⟨fault, hcommitted, hfirst⟩ | ⟨hash, hhash, hcommitted, hclear₈⟩
  · rw [hbytes, hcommitted]
    exact .inl ⟨fault, rfl, hfirst⟩
  · refine .inr ⟨not_obstacle_of_clear hclear₈, salt, name, hash, revealed, hsalt, hname, hhash,
      hrewrite, ?_⟩
    rw [hbytes, hcommitted, decide_eq_decide.mpr (eq_comm (a := hash))]
    rfl

/-- The comparison fails exactly with the obstacle that no other has a place before. If there is
none it compares the bytes of the hash with what the text of the digest of salt and name is written
as. Under a charset that is the digest: reading it as a text and writing that text is no obstacle
and changes nothing. -/
theorem matchesCommitment_fails_by_first_obstacle (digest : Bytes → Bytes)
    (revealing : Descriptor Source) (committing : Descriptor Other) :
    (∀ fault, revealing.matchesCommitment digest committing = .error fault ↔
        ∃ place, Obstacle digest revealing committing place fault ∧
          ∀ place' fault', Obstacle digest revealing committing place' fault' →
            place ≤ place') ∧
      ((∀ place fault, ¬ Obstacle digest revealing committing place fault) →
        ∃ salt name hash revealed, revealing.Writes .salt salt ∧ revealing.Writes .name name ∧
          committing.Writes .hash hash ∧
          revealing.encoding.rewrite (digest (salt ++ name)) = .ok revealed ∧
          revealing.matchesCommitment digest committing = .ok (decide (hash = revealed)) ∧
          ∀ charset, revealing.encoding = .known charset → revealed = digest (salt ++ name)) ∧
      ∀ charset data, ∃ t, (Encoding.known charset).read (some (digest data)) = .ok t ∧
        (Encoding.known charset).write t = .ok (digest data) := by
  have hcases := matchesCommitment_cases digest revealing committing
  refine ⟨fun fault => ?_, fun hnone => ?_, fun charset data => ?_⟩
  · rw [← firstObstacle_iff]
    rcases hcases with ⟨found, hfound, hfirst⟩ | ⟨hnone, _, _, _, _, -, -, -, -, hok⟩
    · rw [hfound, Except.error.injEq]
      refine ⟨?_, hfirst.eq⟩
      rintro rfl
      exact hfirst
    · rw [hok]
      refine iff_of_false nofun ?_
      rintro ⟨place, -, h⟩
      exact hnone place fault h
  · rcases hcases with
      ⟨found, -, place, -, h⟩ | ⟨-, salt, name, hash, revealed, hsalt, hname, hhash, hrewrite, hok⟩
    · exact absurd h (hnone place found)
    · refine ⟨salt, name, hash, revealed, hsalt, hname, hhash, hrewrite, hok, fun charset h => ?_⟩
      rw [h, Encoding.rewrite_known] at hrewrite
      exact (Except.ok.inj hrewrite).symm
  · exact ⟨charset.decode (digest data), Encoding.read_known charset (some (digest data)),
      Encoding.write_known_decode charset (digest data)⟩

/-- A codec that puts a mark in front writes the text of a digest as other bytes than the digest. So
there is no match although the hash is written as the digest of what salt and name are written
as. -/
theorem matchesCommitment_of_marked_digest :
    let revealing : Descriptor Unit :=
      ⟨.firstUpdate [.ofByte 0x61] [.ofByte 0x62] [], .other .utf8Marked, ()⟩
    let salt : Bytes := [0xEF, 0xBB, 0xBF, 0x62]
    let name : Bytes := [0xEF, 0xBB, 0xBF, 0x61]
    let hash : Bytes := Digest.hash160 (salt ++ name)
    let committing : Descriptor Unit := ⟨.new (Charset.latin1.decode hash), .standard, ()⟩
    revealing.Writes .salt salt ∧ revealing.Writes .name name ∧ committing.Writes .hash hash ∧
      revealing.matchesCommitment Digest.hash160 committing = .ok false := by
  intro revealing salt name hash committing
  have hhash := Encoding.write_known_decode .latin1 hash
  exact ⟨⟨_, rfl, rfl⟩, ⟨_, rfl, rfl⟩, ⟨_, rfl, hhash⟩, by decide +kernel⟩

/-- Both encodings are unknown, and the second operation commits to nothing. -/
example : matchesCommitment id (⟨.firstUpdate [] [] [], .unknown "latin-99", ()⟩ : Descriptor Unit)
    (⟨.update [] [], .unknown "bogus", ()⟩ : Descriptor Unit) =
      .error (.encoding (.unknownEncoding "latin-99")) := rfl

end Descriptor

end NameOutputs
