import Mathlib.Algebra.Ring.Nat
import NameOutputs.Text.Hex
import NameOutputs.Text.Numeral

/-!
# Numerals are read back

Numbers are written in two ways: with as many digits as it takes, and with a fixed number of
hexadecimal digits. `Text.numberOf` reads either, so a number is determined by its digits
(`digits_injective`, `numberOf_paddedHex`), and an integer by its decimal numeral
(`decimal_injective`). Nothing but digits stands in what is written, the sign apart, so signs and
punctuation tell where it begins and ends.

A hexadecimal numeral is laid out as the sign, the mark and the digits, filled up with zeros
(`hexadecimal_eq`). `Text.integerOf?` reads it in that order, whatever the zeros, so it determines
the integer as well (`integerOf?_hexadecimal`).
-/

namespace NameOutputs

/-- The code point is a digit, decimal or hexadecimal in lower case. -/
def CodePoint.IsDigit (c : CodePoint) : Prop :=
  ∃ k < 16, c = ofChar (Nat.digitChar k)

instance : DecidablePred CodePoint.IsDigit :=
  fun _ => inferInstanceAs (Decidable (∃ k < 16, _))

namespace Text

/-- What a digit stands for. -/
def digitValue (c : CodePoint) : Nat :=
  if c.code < 0x3A then c.code - 0x30 else c.code - 0x57

/-- The number that digits stand for, the most significant first. -/
def numberOf (base : Nat) (t : Text) : Nat :=
  t.foldl (fun n c => base * n + digitValue c) 0

/-- The character of a digit has its value. -/
theorem digitValue_digitChar : ∀ k < 16, digitValue (.ofChar (Nat.digitChar k)) = k := by
  decide

/-- The last digit of a numeral counts once, and the others as often as the base says. -/
theorem numberOf_concat (base : Nat) (t : Text) (c : CodePoint) :
    numberOf base (t ++ [c]) = base * numberOf base t + digitValue c := by
  rw [numberOf, List.foldl_append]
  rfl

/-- Where a mark stands in neither of two beginnings, it tells where each ends. -/
theorem append_cons_inj {mark : CodePoint} {t t' rest rest' : Text} (ht : mark ∉ t)
    (ht' : mark ∉ t') (h : t ++ mark :: rest = t' ++ mark :: rest') : t = t' ∧ rest = rest' := by
  have htake : ∀ t rest : Text, mark ∉ t → (t ++ mark :: rest).takeWhile (· ≠ mark) = t := by
    intro t rest ht
    have hne : ∀ c ∈ t, decide (c ≠ mark) = true :=
      fun c hc => decide_eq_true fun heq => ht (heq ▸ hc)
    rw [List.takeWhile_append_of_pos hne, List.takeWhile_cons_of_neg (by simp), List.append_nil]
  have heq : t = t' := by rw [← htake t rest ht, h, htake t' rest' ht']
  subst heq
  exact ⟨rfl, (List.cons.inj (List.append_cancel_left h)).2⟩

/-! ## As many digits as it takes -/

section Digits

variable {base : Nat}

/-- Digits are one digit, or those of the quotient and a last one. -/
theorem digits_induction {motive : Nat → Text → Prop} (hbase : 1 < base)
    (single : ∀ k < base, motive k [.ofChar (Nat.digitChar k)])
    (append : ∀ n k t, k < base → motive n t →
      motive (base * n + k) (t ++ [.ofChar (Nat.digitChar k)])) (n : Nat) :
    motive n (digits base n) := by
  induction n using Nat.strongRecOn with
  | ind n ih =>
    rw [digits, Nat.toDigits_eq_if hbase]
    split
    · next hn => exact single n hn
    · next hn =>
      have hquotient : n / base < n := Nat.div_lt_self (by omega) hbase
      have happend := append (n / base) (n % base) _ (Nat.mod_lt n (by omega)) (ih _ hquotient)
      rw [Nat.div_add_mod] at happend
      rw [List.map_append]
      exact happend

/-- Every number has a digit. -/
theorem length_digits_pos (base n : Nat) : 0 < (digits base n).length := by
  rw [digits, List.length_map]
  exact Nat.length_toDigits_pos

/-- A number below the base has one digit. -/
theorem length_digits_of_lt {n : Nat} (h : n < base) : (digits base n).length = 1 := by
  rw [digits, Nat.toDigits_of_lt_base h]
  rfl

/-- A number that is not below the base has the digits of the quotient and one more. -/
theorem two_le_length_digits (hbase : 1 < base) {n : Nat} (h : base ≤ n) :
    2 ≤ (digits base n).length := by
  have hquotient : 0 < (Nat.toDigits base (n / base)).length := Nat.length_toDigits_pos
  rw [digits, Nat.toDigits_eq_if hbase, if_neg (by omega), List.length_map, List.length_append,
    List.length_singleton]
  omega

/-- In a base up to sixteen a number is written in digits. -/
theorem isDigit_of_mem_digits (hbase : 1 < base) (hle : base ≤ 16) {n : Nat} {c : CodePoint}
    (hc : c ∈ digits base n) : c.IsDigit := by
  revert hc
  refine digits_induction (motive := fun _ t => c ∈ t → c.IsDigit) hbase ?_ ?_ n
  · intro k hk hc
    exact ⟨k, by omega, List.mem_singleton.mp hc⟩
  · intro n k t hk ih hc
    rcases List.mem_append.mp hc with hc | hc
    · exact ih hc
    · exact ⟨k, by omega, List.mem_singleton.mp hc⟩

/-- A number is read back from its digits. -/
theorem numberOf_digits (hbase : 1 < base) (hle : base ≤ 16) (n : Nat) :
    numberOf base (digits base n) = n := by
  refine digits_induction (motive := fun n t => numberOf base t = n) hbase ?_ ?_ n
  · intro k hk
    show base * 0 + digitValue (.ofChar (Nat.digitChar k)) = k
    rw [digitValue_digitChar k (by omega), Nat.mul_zero, Nat.zero_add]
  · intro n k t hk ih
    rw [numberOf_concat, ih, digitValue_digitChar k (by omega)]

/-- Numbers are told apart by their digits. -/
theorem digits_injective (hbase : 1 < base) (hle : base ≤ 16) {m n : Nat}
    (h : digits base m = digits base n) : m = n := by
  rw [← numberOf_digits hbase hle m, h, numberOf_digits hbase hle]

end Digits

/-! ## A fixed number of digits -/

/-- A padded numeral consists of digits. -/
theorem isDigit_of_mem_paddedHex {width n : Nat} {c : CodePoint} (hc : c ∈ paddedHex width n) :
    c.IsDigit := by
  induction width generalizing n with
  | zero => cases hc
  | succ width ih =>
    rcases List.mem_append.mp hc with hc | hc
    · exact ih hc
    · exact ⟨n % 0x10, Nat.mod_lt n (by decide), List.mem_singleton.mp hc⟩

/-- A number that the width holds is read back from its digits. -/
theorem numberOf_paddedHex {width n : Nat} (h : n < 0x10 ^ width) :
    numberOf 0x10 (paddedHex width n) = n := by
  induction width generalizing n with
  | zero =>
    obtain rfl : n = 0 := by simpa using h
    rfl
  | succ width ih =>
    have hquotient : n / 0x10 < 0x10 ^ width := by
      rw [Nat.pow_succ] at h
      omega
    rw [paddedHex, numberOf_concat, ih hquotient,
      digitValue_digitChar _ (Nat.mod_lt n (by decide))]
    exact Nat.div_add_mod n 0x10

/-! ## Integers -/

/-- What stands in a decimal numeral is a digit or the sign. -/
theorem isDigit_of_mem_decimal {n : Int} {c : CodePoint} (hc : c ∈ decimal n) :
    c.IsDigit ∨ c = .ofChar '-' := by
  have hdigits : c ∈ digits 10 n.natAbs → c.IsDigit := isDigit_of_mem_digits (by decide) (by decide)
  unfold decimal at hc
  split at hc
  · rcases List.mem_append.mp hc with hc | hc
    · exact .inr (by simpa [ofString] using hc)
    · exact .inl (hdigits hc)
  · exact .inl (hdigits hc)

/-- Digits do not begin with the sign. -/
theorem minus_append_ne_digits (m n : Nat) : ofString "-" ++ digits 10 m ≠ digits 10 n := by
  intro h
  have hminus : CodePoint.ofChar '-' ∈ digits 10 n := h ▸ List.mem_cons_self
  have hnot : ¬ (CodePoint.ofChar '-').IsDigit := by decide
  exact hnot (isDigit_of_mem_digits (by decide) (by decide) hminus)

/-- An integer is determined by its decimal numeral. -/
theorem decimal_injective {m n : Int} (h : decimal m = decimal n) : m = n := by
  have hinjective : ∀ {m n : Nat}, digits 10 m = digits 10 n → m = n :=
    digits_injective (by decide) (by decide)
  unfold decimal at h
  split at h
  · split at h
    · have := hinjective (List.append_cancel_left h)
      omega
    · exact absurd h (minus_append_ne_digits _ _)
  · split at h
    · exact absurd h.symm (minus_append_ne_digits _ _)
    · have := hinjective h
      omega

/-! ## Hexadecimal numerals -/

/-- The sign before the numeral of an integer. -/
def sign (n : Int) : Text :=
  if n < 0 then ofString "-" else []

/-- The number behind the mark `0x`, where nothing but digits stands. -/
def magnitudeOf? : Text → Option Nat
  | zero :: mark :: t =>
    if zero = .ofChar '0' ∧ mark = .ofChar 'x' ∧ ∀ c ∈ t, c.IsDigit then some (numberOf 0x10 t)
    else none
  | _ => none

/-- The integer that a hexadecimal numeral stands for. -/
def integerOf? (t : Text) : Option Int :=
  if t.head? = some (.ofChar '-') then (magnitudeOf? t.tail).map fun n : Nat => -(n : Int)
  else (magnitudeOf? t).map fun n : Nat => (n : Int)

/-- A numeral is the sign, the mark and the digits, with zeros before the digits up to four code
points in all. -/
theorem hexadecimal_eq (n : Int) :
    hexadecimal n =
      sign n ++ ofString "0x" ++
        List.replicate (4 - ((sign n).length + 2 + (digits 0x10 n.natAbs).length)) (.ofChar '0') ++
        digits 0x10 n.natAbs := by
  unfold hexadecimal sign
  by_cases hsign : n < 0
  · have hpos : 0 < (digits 0x10 n.natAbs).length := length_digits_pos 0x10 n.natAbs
    -- The sign, the mark and one digit are four already.
    have hfull : 4 - ((ofString "-").length + 2 + (digits 0x10 n.natAbs).length) = 0 := by
      show 4 - (1 + 2 + _) = 0
      omega
    rw [if_pos hsign, if_pos hsign, hfull]
    rfl
  · rw [if_neg hsign, if_neg hsign, List.length_nil]
    by_cases hsmall : n.natAbs < 0x10
    · rw [if_pos hsmall, length_digits_of_lt hsmall]
      rfl
    · have htwo : 2 ≤ (digits 0x10 n.natAbs).length :=
        two_le_length_digits (by decide) (by omega)
      have hfull : 4 - (0 + 2 + (digits 0x10 n.natAbs).length) = 0 := by omega
      rw [if_neg hsmall, hfull]
      rfl

/-- The numeral of a number below sixteen is filled up, and that of one below zero never is. -/
example : [0, 81, 256, -1, -16].map hexadecimal =
    ["0x00", "0x51", "0x100", "-0x1", "-0x10"].map ofString := by
  decide +kernel

/-- Zeros before the digits do not change the number. -/
theorem numberOf_replicate_append (base k : Nat) (t : Text) :
    numberOf base (List.replicate k (.ofChar '0') ++ t) = numberOf base t := by
  induction k with
  | zero => rfl
  | succ k ih =>
    have hzero : base * 0 + digitValue (.ofChar '0') = 0 := by
      rw [Nat.mul_zero]
      rfl
    rw [List.replicate_succ, List.cons_append, numberOf, List.foldl_cons, hzero]
    exact ih

/-- Digits behind the mark of hexadecimal are read as their number. -/
theorem magnitudeOf?_append {t : Text} (h : ∀ c ∈ t, c.IsDigit) :
    magnitudeOf? (ofString "0x" ++ t) = some (numberOf 0x10 t) := by
  have hmark : ofString "0x" ++ t = .ofChar '0' :: .ofChar 'x' :: t := rfl
  rw [hmark, magnitudeOf?, if_pos ⟨rfl, rfl, h⟩]

/-- Behind a minus sign stands a magnitude. -/
theorem integerOf?_minus_append (t : Text) :
    integerOf? (ofString "-" ++ t) = (magnitudeOf? t).map fun n : Nat => -(n : Int) :=
  if_pos rfl

/-- What begins with the mark of hexadecimal is a magnitude. -/
theorem integerOf?_mark_append (t : Text) :
    integerOf? (ofString "0x" ++ t) =
      (magnitudeOf? (ofString "0x" ++ t)).map fun n : Nat => (n : Int) := by
  have hsign : (ofString "0x" ++ t).head? ≠ some (.ofChar '-') := by
    show some (CodePoint.ofChar '0') ≠ some (.ofChar '-')
    decide
  exact if_neg hsign

/-- An integer is read back from its hexadecimal numeral. -/
theorem integerOf?_hexadecimal (n : Int) : integerOf? (hexadecimal n) = some n := by
  have hmagnitude : ∀ k, magnitudeOf? (ofString "0x" ++
      (List.replicate k (.ofChar '0') ++ digits 0x10 n.natAbs)) = some n.natAbs := by
    intro k
    have hdigits : ∀ c ∈ List.replicate k (.ofChar '0') ++ digits 0x10 n.natAbs, c.IsDigit := by
      intro c hc
      rcases List.mem_append.mp hc with hzero | hdigit
      · exact ⟨0, by decide, List.eq_of_mem_replicate hzero⟩
      · exact isDigit_of_mem_digits (by decide) (by decide) hdigit
    rw [magnitudeOf?_append hdigits, numberOf_replicate_append,
      numberOf_digits (by decide) (by decide)]
  rw [hexadecimal_eq, List.append_assoc, List.append_assoc]
  by_cases hsign : n < 0
  · have hn : -(n.natAbs : Int) = n := by omega
    have hminus : sign n = ofString "-" := if_pos hsign
    rw [hminus, integerOf?_minus_append, hmagnitude, Option.map_some, hn]
  · have hn : (n.natAbs : Int) = n := by omega
    have hnone : sign n = [] := if_neg hsign
    rw [hnone, List.nil_append, integerOf?_mark_append, hmagnitude, Option.map_some, hn]

/-- Integers are told apart by their hexadecimal numerals. -/
theorem hexadecimal_injective {m n : Int} (h : hexadecimal m = hexadecimal n) : m = n := by
  have hread : some m = some n := by
    rw [← integerOf?_hexadecimal m, h, integerOf?_hexadecimal n]
  exact Option.some.inj hread

/-- What stands in a hexadecimal numeral is a digit, the sign or the letter of the mark. -/
theorem isDigit_of_mem_hexadecimal {n : Int} {c : CodePoint} (hc : c ∈ hexadecimal n) :
    c.IsDigit ∨ c = .ofChar '-' ∨ c = .ofChar 'x' := by
  have hmark : ∀ c ∈ ofString "-0x", c.IsDigit ∨ c = .ofChar '-' ∨ c = .ofChar 'x' := by decide
  rw [hexadecimal_eq, List.mem_append, List.mem_append, List.mem_append] at hc
  rcases hc with ((hsign | hfront) | hzero) | hdigit
  · unfold sign at hsign
    split at hsign
    · exact hmark c (List.mem_append_left (ofString "0x") hsign)
    · cases hsign
  · exact hmark c (List.mem_append_right (ofString "-") hfront)
  · have hc : c = .ofChar '0' := List.eq_of_mem_replicate hzero
    exact .inl ⟨0, by decide, hc⟩
  · exact .inl (isDigit_of_mem_digits (by decide) (by decide) hdigit)

/-- No integer has a decimal numeral that is a hexadecimal one, since the mark stands in none. -/
theorem hexadecimal_ne_decimal (m n : Int) : hexadecimal m ≠ decimal n := by
  intro h
  have hletter : CodePoint.ofChar 'x' ∈ decimal n := by
    rw [← h, hexadecimal_eq]
    exact List.mem_append_left _ (List.mem_append_left _ (List.mem_append_right _ (by decide)))
  have hnot : ¬ ((CodePoint.ofChar 'x').IsDigit ∨ CodePoint.ofChar 'x' = .ofChar '-') := by decide
  exact hnot (isDigit_of_mem_decimal hletter)

end Text

end NameOutputs
