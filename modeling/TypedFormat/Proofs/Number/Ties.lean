import Mathlib
import TypedFormat.Proofs.Number.HalfAway

/-!
# Ties are found exactly

The test for ties looks only at an exponent and at how often two divides a mantissa. It finds just the
numbers that lie halfway between two numerals: those of which twice the units of the last place are an
odd whole number (`Dyadic.isTie_iff_odd`). The decimal expansion of such a number ends one place later,
in a five (`Binary64.isTie_exactly`), so the digit that is dropped there is all that rounding has to
look at.
-/

namespace TypedFormat

namespace Dyadic

variable {x : Dyadic} {places : Nat}

/-- Scaled values as quotients of whole numbers. -/
lemma value_mul_ten_pow (x : Dyadic) (places : Nat) :
    x.value * 10 ^ places = ((x.numerator * tenTo places : Nat) : ℚ) / x.denominator := by
  have hten : ((tenTo places : Nat) : ℚ) = 10 ^ places := Nat.cast_pow 10 places
  rw [value_eq_div, Nat.cast_mul, hten]
  ring

/-- A scaled value is a whole number just if its denominator divides out. -/
lemma value_mul_ten_pow_eq_iff {n : Nat} :
    x.value * 10 ^ places = n ↔ x.numerator * tenTo places = n * x.denominator := by
  have hden : (x.denominator : ℚ) ≠ 0 := Nat.cast_ne_zero.mpr x.denominator_pos.ne'
  rw [value_mul_ten_pow, div_eq_iff hden]
  exact_mod_cast Iff.rfl

lemma two_mul_value_mul_ten_pow_eq_iff {n : Nat} :
    2 * x.value * 10 ^ places = n ↔ 2 * (x.numerator * tenTo places) = n * x.denominator := by
  have hden : (x.denominator : ℚ) ≠ 0 := Nat.cast_ne_zero.mpr x.denominator_pos.ne'
  rw [mul_assoc, value_mul_ten_pow, ← mul_div_assoc, div_eq_iff hden]
  exact_mod_cast Iff.rfl

/-- A value lies halfway between two whole numbers of units just if twice these units are an odd
number. -/
lemma isTie_iff_odd :
    x.isTie places = true ↔ ∃ n : Nat, Odd n ∧ 2 * x.value * 10 ^ places = n := by
  simp only [isTie_iff, two_mul_value_mul_ten_pow_eq_iff]
  have hpos := x.denominator_pos
  have hdivmod := Nat.div_add_mod (x.numerator * tenTo places) x.denominator
  generalize x.numerator * tenTo places = num at hdivmod
  generalize x.denominator = den at hdivmod hpos
  constructor
  · intro hhalf
    refine ⟨2 * (num / den) + 1, odd_two_mul_add_one _, ?_⟩
    calc 2 * num = 2 * (den * (num / den) + num % den) := by rw [hdivmod]
      _ = 2 * (den * (num / den)) + 2 * (num % den) := Nat.mul_add 2 _ _
      _ = (2 * (num / den) + 1) * den := by rw [hhalf]; ring
  · rintro ⟨n, ⟨k, rfl⟩, hodd⟩
    -- The denominator is twice something, and that is what is left of the units.
    obtain ⟨half, rfl⟩ : 2 ∣ den := by
      have heven : 2 ∣ (2 * k + 1) * den := ⟨num, hodd.symm⟩
      exact (Nat.Coprime.dvd_mul_left (by simp)).mp heven
    have hnum : num = 2 * half * k + half := by
      have htwice : 2 * num = 2 * (2 * half * k + half) := by rw [hodd]; ring
      omega
    rw [hnum, Nat.mul_add_mod, Nat.mod_eq_of_lt (by omega)]

/-- A value of so many whole units is a whole number and the fraction that the last digits write. -/
lemma value_eq_whole_add_fraction {units : Nat} (h : x.value * 10 ^ places = units) :
    x.value = (units / tenTo places : Nat)
      + (Nat.ofDigitChars 10 (lastDigits places units) 0 : ℚ) / 10 ^ places := by
  have hpower : ((tenTo places : Nat) : ℚ) = 10 ^ places := Nat.cast_pow 10 places
  have hparts : (units : ℚ) = tenTo places * (units / tenTo places : Nat)
      + (units % tenTo places : Nat) := by
    exact_mod_cast (Nat.div_add_mod units (tenTo places)).symm
  have hne : ((tenTo places : Nat) : ℚ) ≠ 0 := Nat.cast_ne_zero.mpr (tenTo_pos places).ne'
  rw [← hpower, ← eq_div_iff hne, hparts] at h
  rw [ofDigitChars_lastDigits, ← hpower, h]
  field_simp

/-- A tie is written exactly with one place more. -/
lemma value_of_isTie (h : x.isTie places = true) :
    x.value * 10 ^ (places + 1) = (x.unitsHalfEven (places + 1) : Nat) := by
  rw [value_mul_ten_pow_eq_iff, unitsHalfEven_of_isTie h]
  exact numerator_of_isTie h

/-- No fewer places than one more are enough for a tie. -/
lemma exists_value_eq_iff_of_isTie (h : x.isTie places = true) {more : Nat} :
    (∃ units : Nat, x.value * 10 ^ more = units) ↔ places < more := by
  constructor
  · rintro ⟨units, hunits⟩
    by_contra hle
    obtain ⟨rest, rfl⟩ := Nat.exists_eq_add_of_le (Nat.le_of_not_lt hle)
    -- With so few places the units would be whole already, and twice these even.
    obtain ⟨n, hodd, hn⟩ := isTie_iff_odd.mp h
    have htwice : ((2 * (units * 10 ^ rest) : Nat) : ℚ) = n := by
      rw [← hn, pow_add, mul_assoc, ← mul_assoc x.value, hunits]
      push_cast
      rfl
    have heven : Even n := ⟨units * 10 ^ rest, by
      rw [← Nat.cast_injective (R := ℚ) htwice, Nat.two_mul]⟩
    exact Nat.not_even_iff_odd.mpr hodd heven
  · intro hlt
    obtain ⟨rest, rfl⟩ := Nat.exists_eq_add_of_le (Nat.succ_le_of_lt hlt)
    refine ⟨x.unitsHalfEven (places + 1) * 10 ^ rest, ?_⟩
    rw [pow_add, ← mul_assoc, value_of_isTie h]
    push_cast
    rfl

end Dyadic

namespace Binary64

/-! ### The value in the fields -/

/-- The value that the fields of a finite number encode: a sign, an exponent that counts from -1023 on,
and a fraction behind a leading one. Exponent zero marks the subnormals, whose leading digit is zero. -/
def encodedValue (x : Binary64) : ℚ :=
  let sign : ℚ := (-1) ^ (x.bits.toNat / 2 ^ 63)
  let exponent : ℕ := x.bits.toNat / 2 ^ 52 % 2 ^ 11
  let fraction : ℚ := (x.bits.toNat % 2 ^ 52 : ℕ) / 2 ^ 52
  if exponent = 0 then sign * fraction * 2 ^ (-1022 : ℤ)
  else sign * (1 + fraction) * 2 ^ ((exponent : ℤ) - 1023)

lemma abs_encodedValue (x : Binary64) : |x.encodedValue| = x.dyadic.value := by
  have hfraction : x.magnitudeBits % twoTo 52 = x.bits.toNat % 2 ^ 52 :=
    Nat.mod_mod_of_dvd _ (show 2 ^ 52 ∣ 2 ^ 63 by decide)
  have hexponent : x.magnitudeBits / twoTo 52 = x.bits.toNat / 2 ^ 52 % 2 ^ 11 :=
    Nat.mod_mul_right_div_self x.bits.toNat (2 ^ 52) (2 ^ 11)
  have hpower : ((twoTo 52 : ℕ) : ℚ) = 2 ^ 52 := Nat.cast_pow 2 52
  -- A mantissa counts units of the last place of the fraction.
  have hshift : ∀ {e e' : ℤ}, e' = e - 52 → (2 : ℚ) ^ e' = 2 ^ e / 2 ^ 52 := by
    rintro e _ rfl
    exact zpow_sub₀ two_ne_zero e 52
  unfold encodedValue dyadic dyadicOfBits
  rw [hfraction, hexponent]
  generalize x.bits.toNat / 2 ^ 52 % 2 ^ 11 = exponent
  dsimp only
  split_ifs
  · have hleast : (2 : ℚ) ^ (-1074 : ℤ) = 2 ^ (-1022 : ℤ) / 2 ^ 52 := hshift (by norm_num)
    rw [abs_mul, abs_mul, abs_neg_one_pow, abs_of_nonneg (by positivity), abs_of_nonneg (by positivity),
      Dyadic.value, hleast]
    ring
  · have hscale : (2 : ℚ) ^ ((exponent : ℤ) - 1075) = 2 ^ ((exponent : ℤ) - 1023) / 2 ^ 52 :=
      hshift (by ring)
    rw [abs_mul, abs_mul, abs_neg_one_pow, abs_of_nonneg (by positivity), abs_of_nonneg (by positivity),
      Dyadic.value, hscale, Nat.cast_add, hpower]
    ring

/-! ### Ties -/

/-- The test for ties finds just the numbers of which twice the units of the last place are an odd whole
number. The decimal expansion of such a number ends one place behind the last one, in a five, and it is
what is written with that many places. -/
theorem isTie_exactly (x : Binary64) (places : Nat) :
    (x.dyadic.isTie places = true ↔ ∃ n : Nat, Odd n ∧ 2 * |x.encodedValue| * 10 ^ places = n) ∧
    (x.dyadic.isTie places = true →
      (∀ more : Nat, (∃ units : Nat, |x.encodedValue| * 10 ^ more = units) ↔ places + 1 ≤ more) ∧
      ∃ (whole : Nat) (fraction : List Char), fraction.length = places + 1 ∧
        (∀ c ∈ fraction, c.isDigit = true) ∧ fraction.getLast? = some '5' ∧
        |x.encodedValue| = whole + (Nat.ofDigitChars 10 fraction 0 : ℚ) / 10 ^ (places + 1) ∧
        placed (places + 1) (x.dyadic.unitsHalfEven (places + 1))
          = Nat.toDigits 10 whole ++ '.' :: fraction) := by
  rw [abs_encodedValue]
  refine ⟨Dyadic.isTie_iff_odd, fun h => ⟨fun more => Dyadic.exists_value_eq_iff_of_isTie h, ?_⟩⟩
  have hfive : x.dyadic.unitsHalfEven (places + 1) % 10 = 5 := by
    rw [Dyadic.unitsHalfEven_of_isTie h]
    omega
  have hvalue := Dyadic.value_of_isTie h
  generalize x.dyadic.unitsHalfEven (places + 1) = units at hfive hvalue
  refine ⟨units / tenTo (places + 1), lastDigits (places + 1) units, length_lastDigits _ _,
    isDigit_of_mem_lastDigits, ?_, ?_, ?_⟩
  · rw [lastDigits, hfive, List.getLast?_concat]
    rfl
  · exact Dyadic.value_eq_whole_add_fraction hvalue
  · rw [placed_eq, if_neg (Nat.succ_ne_zero places)]

end Binary64

end TypedFormat
