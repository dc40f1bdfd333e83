import Mathlib.Algebra.Ring.Nat
import Mathlib.Tactic.SplitIfs
import NameOutputs.Text.Utf8

/-!
# Reading UTF-8 and writing it back

Where a well-formed sequence starts, its bytes are those of the character that is read
(`encode_of_sequence?`), and where the bytes of a character start, that character is read, whatever
follows them (`sequence?_encode_append`). The number of a character is cut into the bits of the lead
byte and six bits for each continuation byte: `extend?_eq_some` finds these cuts again in the number
that the bits add up to, `extend?_tailBytes` adds them up again, and the shortest-form test of
`character?` says that `encode` makes as many. Reading starts afresh after each sequence and after
each byte that is kept raw, which is the induction of `induction_resync`: it goes over these points,
and not over the bytes one by one.
-/

namespace NameOutputs.Utf8

/-- The lead byte of `tails` continuation bytes that holds the bits. -/
def leadByte : (tails bits : Nat) → UInt8
  | 0, bits => UInt8.ofNat bits
  | 1, bits => UInt8.ofNat (0xC0 + bits)
  | 2, bits => UInt8.ofNat (0xE0 + bits)
  | _, bits => UInt8.ofNat (0xF0 + bits)

/-- The last `tails` continuation bytes of a number, six bits each, the highest first. -/
def tailBytes : (tails code : Nat) → Bytes
  | 0, _ => []
  | tails + 1, code => tailByte (code / 0x40 ^ tails) :: tailBytes tails code

/-- A character is written as the lead byte of its high bits and as many continuation bytes as its
shortest form needs. -/
theorem encode_eq (c : CodePoint) :
    encode c = leadByte (tailCount c.code) (c.code / 0x40 ^ tailCount c.code) ::
      tailBytes (tailCount c.code) c.code := by
  unfold encode tailCount
  split_ifs <;> simp [leadByte, tailBytes]

/-- A lead byte is the one of the bits and the number of continuation bytes that it says. -/
theorem leadByte_of_lead? {b : UInt8} {bits tails : Nat} (h : lead? b = some (bits, tails)) :
    leadByte tails bits = b := by
  have hb := b.toNat_lt
  unfold lead? at h
  split_ifs at h <;> obtain ⟨rfl, rfl⟩ := Prod.mk.inj (Option.some.inj h) <;>
    apply UInt8.toNat_inj.mp <;> simp only [leadByte, UInt8.toNat_ofNat'] <;> omega

/-- A byte below `0x80` is a lead byte that calls for no continuation. -/
theorem lead?_of_lt {b : UInt8} (h : b.toNat < 0x80) : lead? b = some (b.toNat, 0) :=
  if_pos h

/-- A continuation byte is the one of each number that ends in its six bits. -/
theorem tailByte_of_isTail {b : UInt8} (h : isTail b = true) (bits : Nat) :
    tailByte (bits * 0x40 + (b.toNat - 0x80)) = b := by
  simp only [isTail, Bool.and_eq_true, decide_eq_true_eq] at h
  apply UInt8.toNat_inj.mp
  simp only [tailByte, UInt8.toNat_ofNat']
  omega

/-- The number that continuation bytes spell has the first bits as its high bits, and its low bits
give the continuation bytes back. -/
theorem extend?_eq_some {bits tails code : Nat} {bs : Bytes}
    (h : extend? bits tails bs = some code) :
    code / 0x40 ^ tails = bits ∧ tailBytes tails code = bs.take tails := by
  induction tails generalizing bits bs with
  | zero =>
    obtain rfl := Option.some.inj h
    exact ⟨Nat.div_one bits, rfl⟩
  | succ tails ih =>
    cases bs with
    | nil => cases h
    | cons b bs =>
      unfold extend? at h
      split at h
      case isFalse => cases h
      case isTrue htail =>
        obtain ⟨hhigh, hlow⟩ := ih h
        -- Six bits go to the first byte, so the bits above them are those that were there before.
        have hb : b.toNat - 0x80 < 0x40 := by
          simp only [isTail, Bool.and_eq_true, decide_eq_true_eq] at htail
          omega
        constructor
        · rw [Nat.pow_succ, ← Nat.div_div_eq_div_mul, hhigh]
          omega
        · show tailByte (code / 0x40 ^ tails) :: tailBytes tails code = b :: bs.take tails
          rw [hhigh, tailByte_of_isTail htail, hlow]

/-- A number is read as a character when it is the number of one and the shortest form has as many
continuation bytes. -/
theorem character?_eq_some_iff {code tails : Nat} {c : CodePoint} :
    character? code tails = some c ↔
      c.code = code ∧ tails = tailCount code ∧ c.isSurrogate = false := by
  unfold character?
  constructor
  · intro h
    split at h
    case isFalse => cases h
    case isTrue hcode =>
      dsimp only at h
      split_ifs at h with hshort
      obtain rfl := Option.some.inj h
      exact ⟨rfl, hshort.1, Bool.eq_false_iff.mpr hshort.2⟩
  · rintro ⟨rfl, rfl, hc⟩
    rw [dif_pos c.code_lt, if_pos ⟨rfl, by rw [hc]; exact Bool.false_ne_true⟩]

/-- What a well-formed sequence is: a lead byte, and continuation bytes whose number is that of a
character in its shortest form. -/
theorem sequence?_eq_some_iff {b : UInt8} {bs : Bytes} {c : CodePoint} {tails : Nat} :
    sequence? (b :: bs) = some (c, tails) ↔
      ∃ bits, lead? b = some (bits, tails) ∧ extend? bits tails bs = some c.code ∧
        tails = tailCount c.code ∧ c.isSurrogate = false := by
  unfold sequence?
  constructor
  · intro h
    obtain ⟨⟨bits, tails'⟩, hlead, h⟩ := Option.bind_eq_some_iff.mp h
    obtain ⟨code, hextend, h⟩ := Option.bind_eq_some_iff.mp h
    obtain ⟨c', hc, h⟩ := Option.bind_eq_some_iff.mp h
    obtain ⟨rfl, rfl⟩ := Prod.mk.inj (Option.some.inj h)
    obtain ⟨rfl, hshort, hsurrogate⟩ := character?_eq_some_iff.mp hc
    exact ⟨bits, hlead, hextend, hshort, hsurrogate⟩
  · rintro ⟨bits, hlead, hextend, hshort, hsurrogate⟩
    have hc : character? c.code tails = some c :=
      character?_eq_some_iff.mpr ⟨rfl, hshort, hsurrogate⟩
    simp only [hlead, hextend, hc, Option.bind_eq_bind, Option.bind_some, Option.pure_def]

/-- The bytes of a well-formed sequence are those that its character is written as. -/
theorem encode_of_sequence? {b : UInt8} {bs : Bytes} {c : CodePoint} {tails : Nat}
    (h : sequence? (b :: bs) = some (c, tails)) : encode c = b :: bs.take tails := by
  obtain ⟨bits, hlead, hextend, hshort, -⟩ := sequence?_eq_some_iff.mp h
  obtain ⟨hhigh, hlow⟩ := extend?_eq_some hextend
  calc encode c = leadByte tails (c.code / 0x40 ^ tails) :: tailBytes tails c.code := by
        rw [encode_eq, ← hshort]
    _ = leadByte tails bits :: bs.take tails := by rw [hhigh, hlow]
    _ = b :: bs.take tails := by rw [leadByte_of_lead? hlead]

/-- No sequence spells a surrogate. -/
theorem isSurrogate_of_sequence? {b : UInt8} {bs : Bytes} {c : CodePoint} {tails : Nat}
    (h : sequence? (b :: bs) = some (c, tails)) : c.isSurrogate = false := by
  obtain ⟨-, -, -, -, hsurrogate⟩ := sequence?_eq_some_iff.mp h
  exact hsurrogate

/-- A byte below `0x80` is a well-formed sequence on its own. So only bytes from `0x80` up are ever
kept raw. -/
theorem le_toNat_of_sequence?_eq_none {b : UInt8} {bs : Bytes} (h : sequence? (b :: bs) = none) :
    0x80 ≤ b.toNat := by
  refine Nat.le_of_not_lt fun hlt => ?_
  -- The byte would be read as the code point of its number.
  have hsequence : sequence? (b :: bs) = some (.ofByte b, 0) := by
    refine sequence?_eq_some_iff.mpr ⟨b.toNat, lead?_of_lt hlt, rfl, (if_pos hlt).symm, ?_⟩
    rw [CodePoint.isSurrogate, CodePoint.code_ofByte, Bool.and_eq_false_iff]
    exact .inl (decide_eq_false (by omega))
  rw [h] at hsequence
  cases hsequence

/-- A lead byte with room for the bits says them and the number of continuation bytes. -/
theorem lead?_leadByte {tails bits : Nat}
    (h : tails = 0 ∧ bits < 0x80 ∨ tails = 1 ∧ bits < 0x20 ∨ tails = 2 ∧ bits < 0x10 ∨
      tails = 3 ∧ bits < 0x08) : lead? (leadByte tails bits) = some (bits, tails) := by
  have hmark (mark : Nat) (hlt : mark + bits < 0x100) :
      (UInt8.ofNat (mark + bits)).toNat = mark + bits := by
    rw [UInt8.toNat_ofNat', Nat.mod_eq_of_lt hlt]
  unfold lead?
  rcases h with ⟨rfl, h⟩ | ⟨rfl, h⟩ | ⟨rfl, h⟩ | ⟨rfl, h⟩
  · have hb : (leadByte 0 bits).toNat = bits := by
      rw [leadByte, UInt8.toNat_ofNat', Nat.mod_eq_of_lt (by omega)]
    rw [hb, if_pos h]
  · have hb : (leadByte 1 bits).toNat = 0xC0 + bits := hmark 0xC0 (by omega)
    rw [hb, if_neg (by omega), if_neg (by omega), if_pos (by omega), Nat.add_sub_cancel_left]
  · have hb : (leadByte 2 bits).toNat = 0xE0 + bits := hmark 0xE0 (by omega)
    rw [hb, if_neg (by omega), if_neg (by omega), if_neg (by omega), if_pos (by omega),
      Nat.add_sub_cancel_left]
  · have hb : (leadByte 3 bits).toNat = 0xF0 + bits := hmark 0xF0 (by omega)
    rw [hb, if_neg (by omega), if_neg (by omega), if_neg (by omega), if_neg (by omega),
      if_pos (by omega), Nat.add_sub_cancel_left]

/-- The lead byte of a character has room for the bits above those of its continuation bytes. -/
theorem lead?_leadByte_tailCount (c : CodePoint) :
    lead? (leadByte (tailCount c.code) (c.code / 0x40 ^ tailCount c.code)) =
      some (c.code / 0x40 ^ tailCount c.code, tailCount c.code) := by
  have hc := c.code_lt
  refine lead?_leadByte ?_
  unfold tailCount
  split_ifs <;> omega

/-- A continuation byte can only continue a sequence. -/
theorem isTail_tailByte (n : Nat) : isTail (tailByte n) = true := by
  simp only [isTail, tailByte, UInt8.toNat_ofNat', Bool.and_eq_true, decide_eq_true_eq]
  omega

/-- A lead byte continues no sequence. -/
theorem isTail_of_lead? {b : UInt8} {found : Nat × Nat} (h : lead? b = some found) :
    isTail b = false := by
  unfold lead? at h
  split_ifs at h <;> rw [isTail, Bool.and_eq_false_iff, decide_eq_false_iff_not,
    decide_eq_false_iff_not] <;> omega

/-- There are as many continuation bytes as are asked for. -/
@[simp] theorem length_tailBytes (tails code : Nat) : (tailBytes tails code).length = tails := by
  induction tails with
  | zero => rfl
  | succ tails ih => rw [tailBytes, List.length_cons, ih]

/-- The continuation bytes of a number add up to it behind its high bits. -/
theorem extend?_tailBytes (tails code : Nat) (bs : Bytes) :
    extend? (code / 0x40 ^ tails) tails (tailBytes tails code ++ bs) = some code := by
  induction tails with
  | zero => exact congrArg some (Nat.div_one code)
  | succ tails ih =>
    -- The first continuation byte holds the six bits below the high ones.
    have hbits : code / 0x40 ^ (tails + 1) * 0x40 +
        ((tailByte (code / 0x40 ^ tails)).toNat - 0x80) = code / 0x40 ^ tails := by
      rw [Nat.pow_succ, ← Nat.div_div_eq_div_mul]
      simp only [tailByte, UInt8.toNat_ofNat']
      omega
    rw [tailBytes, List.cons_append, extend?, if_pos (isTail_tailByte _), hbits, ih]

/-- The bytes of a character start a well-formed sequence, whatever follows them. -/
theorem sequence?_encode_append {c : CodePoint} (hc : c.isSurrogate = false) (bs : Bytes) :
    sequence? (encode c ++ bs) = some (c, tailCount c.code) := by
  rw [encode_eq, List.cons_append]
  exact sequence?_eq_some_iff.mpr
    ⟨_, lead?_leadByte_tailCount c, extend?_tailBytes _ c.code bs, rfl, hc⟩

/-- The bytes of a character are read as the character, whatever follows them. -/
theorem decode_encode_append {c : CodePoint} (hc : c.isSurrogate = false) (bs : Bytes) :
    decode (encode c ++ bs) = c :: decode bs := by
  have hsequence := sequence?_encode_append hc bs
  rw [encode_eq, List.cons_append] at hsequence ⊢
  rw [decode_of_sequence? hsequence, List.drop_left' (length_tailBytes _ _)]

/-- The bytes of a character start with one that continues no sequence. -/
theorem exists_encode_eq_cons (c : CodePoint) :
    ∃ b bs, encode c = b :: bs ∧ isTail b = false :=
  ⟨_, _, encode_eq c, isTail_of_lead? (lead?_leadByte_tailCount c)⟩

/-- Induction over the points at which reading starts afresh: after a well-formed sequence, and
after a byte that starts none. -/
theorem induction_resync {motive : Bytes → Prop} (nil : motive [])
    (character : ∀ b bs c tails, sequence? (b :: bs) = some (c, tails) →
      motive (bs.drop tails) → motive (b :: bs))
    (raw : ∀ b bs, sequence? (b :: bs) = none → motive bs → motive (b :: bs)) (bs : Bytes) :
    motive bs := by
  -- The bytes that are left get fewer at every point.
  induction hn : bs.length using Nat.strongRecOn generalizing bs with
  | ind n ih =>
    cases bs with
    | nil => exact nil
    | cons b bs =>
      rw [List.length_cons] at hn
      rcases hsequence : sequence? (b :: bs) with _ | ⟨c, tails⟩
      · exact raw b bs hsequence (ih bs.length (by omega) bs rfl)
      · have hdrop : (bs.drop tails).length < n := by
          rw [List.length_drop]
          omega
        exact character b bs c tails hsequence (ih _ hdrop (bs.drop tails) rfl)

end NameOutputs.Utf8
