import NameOutputs.Proofs.Text.Numeral

/-!
# What abbreviated data tell

Data are shown by their hexadecimal digits, long data by the digits at either end.
`shortHex_tells_all_but_middle` shows what that tells: data of up to five bytes are told apart from
all others, and longer data up to what stands between their first two and their last two bytes.

Digits determine the data (`hex_injective`), and the digits of the ends are the ends of the digits
(`hex_take_drop`), so an abbreviation is cut from the digits as well as from the data
(`shortHex_eq_slices`). Short and long data are never shown alike (`length_le_iff_of_shortHex_eq`),
since the digits in full are an even number and an abbreviation has eleven code points.
-/

namespace NameOutputs.Bytes

/-- Data in hexadecimal consist of digits. -/
theorem isDigit_of_mem_hex {bs : Bytes} {c : CodePoint} (hc : c ∈ bs.hex) : c.IsDigit := by
  obtain ⟨b, -, hb⟩ := List.mem_flatMap.mp hc
  exact Text.isDigit_of_mem_paddedHex hb

/-- What stands in abbreviated data is a digit or a dot. -/
theorem isDigit_of_mem_shortHex {bs : Bytes} {c : CodePoint} (hc : c ∈ bs.shortHex) :
    c.IsDigit ∨ c = .ofChar '.' := by
  unfold shortHex at hc
  split at hc
  · exact .inl (isDigit_of_mem_hex hc)
  · rcases List.mem_append.mp hc with hc | hc
    · rcases List.mem_append.mp hc with hc | hc
      · exact .inl (isDigit_of_mem_hex hc)
      · exact .inr (by simpa [Text.ofString] using hc)
    · exact .inl (isDigit_of_mem_hex hc)

/-- Data that are joined are joined in hexadecimal. -/
theorem hex_append (a b : Bytes) : hex (a ++ b) = hex a ++ hex b :=
  List.flatMap_append

/-- A byte is determined by its two digits. -/
theorem paddedHex_toNat_injective {b c : UInt8}
    (h : Text.paddedHex 2 b.toNat = Text.paddedHex 2 c.toNat) : b = c := by
  have hread : ∀ b : UInt8, Text.numberOf 0x10 (Text.paddedHex 2 b.toNat) = b.toNat :=
    fun b => Text.numberOf_paddedHex b.toNat_lt
  have hnat : b.toNat = c.toNat := by rw [← hread b, h, hread c]
  exact UInt8.toNat_inj.mp hnat

/-- Data are determined by their digits. -/
theorem hex_injective {a b : Bytes} (h : a.hex = b.hex) : a = b := by
  have hlength : a.length = b.length := by
    have := congrArg List.length h
    rw [length_hex, length_hex] at this
    omega
  induction a generalizing b with
  | nil => exact (List.length_eq_zero_iff.mp hlength.symm).symm
  | cons x a ih =>
    obtain ⟨y, b, rfl⟩ := List.exists_cons_of_length_eq_add_one hlength.symm
    have hdigits : Text.paddedHex 2 x.toNat ++ hex a = Text.paddedHex 2 y.toNat ++ hex b := h
    obtain ⟨hbyte, hrest⟩ := List.append_inj hdigits
      (by rw [Text.length_paddedHex, Text.length_paddedHex])
    rw [paddedHex_toNat_injective hbyte, ih hrest (Nat.succ.inj hlength)]

/-- The digits of the first bytes are the first digits, and those of the others are the others. -/
theorem hex_take_drop {n : Nat} {bs : Bytes} (h : n ≤ bs.length) :
    hex (bs.take n) = (hex bs).take (2 * n) ∧ hex (bs.drop n) = (hex bs).drop (2 * n) := by
  have hsplit : hex bs = hex (bs.take n) ++ hex (bs.drop n) := by
    rw [← hex_append, List.take_append_drop]
  have hlength : (hex (bs.take n)).length = 2 * n := by
    rw [length_hex, List.length_take, Nat.min_eq_left h]
  rw [hsplit, List.take_left' hlength, List.drop_left' hlength]
  exact ⟨rfl, rfl⟩

/-- An abbreviation is cut from the digits: of eleven or more, it keeps four at either end. -/
theorem shortHex_eq_slices (bs : Bytes) :
    bs.shortHex =
      if (hex bs).length < 11 then hex bs
      else (hex bs).take 4 ++ Text.ofString "..." ++ (hex bs).drop ((hex bs).length - 4) := by
  unfold shortHex
  rw [length_hex]
  by_cases h : bs.length ≤ 5
  · rw [if_pos h, if_pos (by omega)]
  · have hfront : hex (bs.take 2) = (hex bs).take 4 := (hex_take_drop (by omega)).1
    have hback : hex (bs.drop (bs.length - 2)) = (hex bs).drop (2 * (bs.length - 2)) :=
      (hex_take_drop (by omega)).2
    have hdouble : 2 * (bs.length - 2) = 2 * bs.length - 4 := by omega
    rw [if_neg h, if_neg (by omega), hfront, hback, hdouble]

/-- Up to five bytes are shown in full, and more are cut to eleven characters. -/
theorem length_shortHex (bs : Bytes) :
    bs.shortHex.length = if bs.length ≤ 5 then 2 * bs.length else 11 := by
  rw [shortHex_eq_slices, length_hex]
  by_cases h : bs.length ≤ 5
  · rw [if_pos h, if_pos (by omega), length_hex]
  · have hdots : (Text.ofString "...").length = 3 := rfl
    rw [if_neg h, if_neg (by omega), List.length_append, List.length_append, hdots,
      List.length_take, List.length_drop, length_hex]
    omega

/-- Short data are not shown like long data, since their digits are an even number. -/
theorem length_le_iff_of_shortHex_eq {a b : Bytes} (h : a.shortHex = b.shortHex) :
    a.length ≤ 5 ↔ b.length ≤ 5 := by
  have hlength : a.shortHex.length = b.shortHex.length := congrArg List.length h
  rw [length_shortHex, length_shortHex] at hlength
  split at hlength
  · split at hlength <;> omega
  · split at hlength <;> omega

/-- Data that are shown in full are told apart. -/
theorem shortHex_eq_iff_of_short {a b : Bytes} (ha : a.length ≤ 5) (hb : b.length ≤ 5) :
    a.shortHex = b.shortHex ↔ a = b := by
  unfold shortHex
  rw [if_pos ha, if_pos hb]
  exact ⟨hex_injective, congrArg hex⟩

/-- Long data are shown alike exactly if they have the same ends. -/
theorem shortHex_eq_iff_of_long {a b : Bytes} (ha : 6 ≤ a.length) (hb : 6 ≤ b.length) :
    a.shortHex = b.shortHex ↔
      a.take 2 = b.take 2 ∧ a.drop (a.length - 2) = b.drop (b.length - 2) := by
  unfold shortHex
  rw [if_neg (by omega), if_neg (by omega)]
  constructor
  · intro h
    have hfront : ∀ {bs : Bytes}, 6 ≤ bs.length → (hex (bs.take 2)).length = 4 := by
      intro bs hbs
      rw [length_hex, List.length_take]
      omega
    rw [List.append_assoc, List.append_assoc] at h
    -- Both have four digits in front, so what follows them is the same as well.
    obtain ⟨htake, hbehind⟩ := List.append_inj h (by rw [hfront ha, hfront hb])
    exact ⟨hex_injective htake, hex_injective (List.append_cancel_left hbehind)⟩
  · rintro ⟨htake, hdrop⟩
    rw [htake, hdrop]

/-- Data are shown alike exactly if they are the same, or if both have six bytes or more and they
agree in the first two and in the last two. No more than eleven code points are shown. -/
theorem shortHex_tells_all_but_middle (a b : Bytes) :
    (a.shortHex = b.shortHex ↔
      a = b ∨ 6 ≤ a.length ∧ 6 ≤ b.length ∧
        a.take 2 = b.take 2 ∧ a.drop (a.length - 2) = b.drop (b.length - 2)) ∧
    a.shortHex.length ≤ 11 := by
  refine ⟨⟨fun h => ?_, ?_⟩, ?_⟩
  · have hboth : a.length ≤ 5 ↔ b.length ≤ 5 := length_le_iff_of_shortHex_eq h
    by_cases ha : a.length ≤ 5
    · exact .inl ((shortHex_eq_iff_of_short ha (hboth.mp ha)).mp h)
    · have hb : ¬ b.length ≤ 5 := mt hboth.mpr ha
      have hends := (shortHex_eq_iff_of_long (by omega) (by omega)).mp h
      exact .inr ⟨by omega, by omega, hends⟩
  · rintro (rfl | ⟨ha, hb, hends⟩)
    · rfl
    · exact (shortHex_eq_iff_of_long ha hb).mpr hends
  · rw [length_shortHex]
    split <;> omega

/-- Five bytes are shown in full, and six are not. -/
example : shortHex [0xDE, 0xAD, 0, 0xBE, 0xEF] = Text.ofString "dead00beef" ∧
    shortHex [0xDE, 0xAD, 0, 1, 0xBE, 0xEF] = Text.ofString "dead...beef" := by
  decide +kernel

end NameOutputs.Bytes
