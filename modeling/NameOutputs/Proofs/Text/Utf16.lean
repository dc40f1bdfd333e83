import NameOutputs.Text.Codec

/-!
# UTF-16 reads what it writes

`Codec.utf16_decode_of_encode` shows that a text that UTF-16 writes is read back, mark and all. A
character is a sequence of its own whatever follows it (`decode?_encodeCharacter?_append`), since a
unit that is no surrogate stands for itself and two surrogates stand for the number that they were
made from. A codec behind a mark reads what the codec itself wrote (`Codec.marked_decode`).
-/

namespace NameOutputs

/-- Two bytes hold a number of sixteen bits in either order. -/
theorem ByteOrder.exists_bytes_pair (order : ByteOrder) {n : Nat} (h : n < 0x10000) :
    ∃ first second, order.bytes 2 n = [first, second] ∧ order.number [first, second] = n := by
  have hlow : (UInt8.ofNat (n % 0x100)).toNat = n % 0x100 := by
    rw [UInt8.toNat_ofNat']
    omega
  have hhigh : (UInt8.ofNat (n / 0x100 % 0x100)).toNat = n / 0x100 := by
    rw [UInt8.toNat_ofNat']
    omega
  cases order with
  | big | little =>
    refine ⟨_, _, rfl, ?_⟩
    show (0 * 0x100 + (UInt8.ofNat (n / 0x100 % 0x100)).toNat) * 0x100 +
      (UInt8.ofNat (n % 0x100)).toNat = n
    omega

namespace Utf16

variable {order : ByteOrder}

/-- A unit is read as the code point of its number. -/
theorem exists_unit (order : ByteOrder) (c : CodePoint) (h : c.code < 0x10000) :
    ∃ first second, order.bytes 2 c.code = [first, second] ∧ unit order first second = c := by
  obtain ⟨first, second, hbytes, hnumber⟩ := order.exists_bytes_pair h
  exact ⟨first, second, hbytes, CodePoint.ext hnumber⟩

/-- The high surrogate of a character beyond the units. -/
def high (c : CodePoint) : CodePoint where
  code := 0xD800 + (c.code - 0x10000) / 0x400
  code_lt := by
    have hlt := c.code_lt
    omega

/-- The low surrogate of a character beyond the units. -/
def low (c : CodePoint) : CodePoint where
  code := 0xDC00 + (c.code - 0x10000) % 0x400
  code_lt := by omega

/-- The number of the high surrogate. -/
@[simp] theorem code_high (c : CodePoint) : (high c).code = 0xD800 + (c.code - 0x10000) / 0x400 :=
  rfl

/-- The number of the low surrogate. -/
@[simp] theorem code_low (c : CodePoint) : (low c).code = 0xDC00 + (c.code - 0x10000) % 0x400 :=
  rfl

/-- The two surrogates of a character are a high and a low one. -/
theorem range_high_low (c : CodePoint) :
    0xD800 ≤ (high c).code ∧ (high c).code < 0xDC00 ∧ 0xDC00 ≤ (low c).code ∧
      (low c).code < 0xE000 := by
  have hlt := c.code_lt
  rw [code_high, code_low]
  omega

/-- The two surrogates of a character stand for it, the high one first. -/
theorem pair?_high_low {c : CodePoint} (h : 0x10000 ≤ c.code) : pair? (high c) (low c) = some c := by
  have hnumber : 0x10000 + ((high c).code - 0xD800) * 0x400 + ((low c).code - 0xDC00) = c.code := by
    rw [code_high, code_low]
    omega
  rw [pair?, dif_pos (range_high_low c)]
  exact congrArg some (CodePoint.ext hnumber)

/-- The high surrogate of a character is a surrogate. -/
theorem isSurrogate_high (c : CodePoint) : (high c).isSurrogate = true := by
  obtain ⟨hfrom, hbelow, -⟩ := range_high_low c
  have hrange : 0xD800 ≤ (high c).code ∧ (high c).code < 0xE000 := by omega
  simpa only [CodePoint.isSurrogate, Bool.and_eq_true, decide_eq_true_eq] using hrange

/-- The bytes of a character start a sequence that takes all of them, whatever follows. -/
theorem exists_sequence {c : CodePoint} {run : Bytes} (h : encodeCharacter? order c = some run) :
    ∃ b tail, run = b :: tail ∧
      ∀ bs, sequence? order (b :: (tail ++ bs)) = some (c, tail.length) := by
  unfold encodeCharacter? at h
  split at h
  · cases h
  next hc =>
  obtain rfl := Option.some.inj h
  by_cases hcode : c.code < 0x10000
  · obtain ⟨first, second, hbytes, hunit⟩ := exists_unit order c hcode
    refine ⟨first, [second], ?_, fun bs => ?_⟩
    · rw [units, if_pos hcode, List.flatMap_singleton, hbytes]
    · simp only [List.singleton_append, sequence?, hunit, if_neg hc, List.length_singleton]
  · obtain ⟨-, hhigh, -, hlow⟩ := range_high_low c
    have hunits : units c = [(high c).code, (low c).code] := by
      rw [units, if_neg hcode]
      rfl
    obtain ⟨first, second, hbytes, hunit⟩ := exists_unit order (high c) (by omega)
    obtain ⟨third, fourth, hbytes', hunit'⟩ := exists_unit order (low c) (by omega)
    refine ⟨first, [second, third, fourth], ?_, fun bs => ?_⟩
    · rw [hunits, List.flatMap_cons, List.flatMap_singleton, hbytes, hbytes']
      rfl
    · have hpair := pair?_high_low (Nat.le_of_not_lt hcode)
      simp only [List.cons_append, List.nil_append, sequence?, hunit, hunit', isSurrogate_high,
        hpair, if_true]
      rfl

/-- Skipping bytes leaves what follows them. -/
theorem decodeAfter?_length_append (skipped bs : Bytes) :
    decodeAfter? order skipped.length (skipped ++ bs) = decode? order bs := by
  induction skipped with
  | nil => rfl
  | cons b skipped ih => exact ih

/-- The bytes of a character are read as the character, whatever follows them. -/
theorem decode?_encodeCharacter?_append {c : CodePoint} {run : Bytes}
    (h : encodeCharacter? order c = some run) (bs : Bytes) :
    decode? order (run ++ bs) = (decode? order bs).map (c :: ·) := by
  obtain ⟨b, tail, rfl, hsequence⟩ := exists_sequence h
  rw [List.cons_append, decode?, decodeAfter?, hsequence bs]
  simp only [decodeAfter?_length_append]
  cases decode? order bs <;> rfl

/-- A text that is written is read back. -/
theorem decode?_of_encode? {t : Text} {data : Bytes} (h : encode? order t = some data) :
    decode? order data = some t := by
  induction t generalizing data with
  | nil =>
    obtain rfl := Option.some.inj h
    rfl
  | cons c t ih =>
    unfold encode? at h ih
    rw [List.mapM_cons] at h
    cases hrun : encodeCharacter? order c with
    | none =>
      rw [hrun] at h
      cases h
    | some run =>
    cases hruns : t.mapM (encodeCharacter? order) with
    | none =>
      rw [hrun, hruns] at h
      cases h
    | some runs =>
    rw [hrun, hruns] at h
    obtain rfl : run ++ runs.flatten = data := Option.some.inj h
    rw [decode?_encodeCharacter?_append hrun, ih (by rw [hruns]; rfl)]
    rfl

end Utf16

namespace Codec

/-- Behind its mark a codec reads what it wrote without. -/
theorem marked_decode (codec : Codec) {mark data : Bytes} {t : Text}
    (h : (codec.marked mark).encode t = .ok data) :
    ∃ rest, data = mark ++ rest ∧ codec.encode t = .ok rest ∧
      (codec.marked mark).decode data = codec.decode rest := by
  unfold marked at h ⊢
  cases hencode : codec.encode t with
  | error fault =>
    simp only [hencode] at h
    cases h
  | ok rest =>
    simp only [hencode] at h
    obtain rfl : mark ++ rest = data := Except.ok.inj h
    have hmark : mark.isPrefixOf (mark ++ rest) = true :=
      List.isPrefixOf_iff_prefix.mpr (List.prefix_append mark rest)
    refine ⟨rest, rfl, rfl, ?_⟩
    simp only [hmark, if_true, List.drop_left]

/-- In one byte order a text that is written is read back. -/
theorem utf16Ordered_decode_of_encode {order : ByteOrder} {t : Text} {data : Bytes}
    (h : (utf16Ordered order).encode t = .ok data) :
    (utf16Ordered order).decode data = .ok t := by
  unfold utf16Ordered at h ⊢
  cases hencode : Utf16.encode? order t with
  | none =>
    simp only [hencode] at h
    cases h
  | some found =>
    simp only [hencode] at h
    obtain rfl : found = data := Except.ok.inj h
    simp only [Utf16.decode?_of_encode? hencode]
    rfl

/-- A text that is written behind the mark is read back. -/
theorem utf16_decode_of_encode {t : Text} {data : Bytes} (h : utf16.encode t = .ok data) :
    utf16.decode data = .ok t := by
  obtain ⟨rest, rfl, hencode, hdecode⟩ := (utf16Ordered .little).marked_decode h
  -- The mark of the one order is not taken for that of the other.
  have hother : bigMark.isPrefixOf (littleMark ++ rest) = false := rfl
  unfold utf16
  simp only [hother, Bool.false_eq_true, if_false]
  rw [hdecode]
  exact utf16Ordered_decode_of_encode hencode

end Codec

end NameOutputs
