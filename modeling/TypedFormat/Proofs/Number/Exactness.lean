import Mathlib
import TypedFormat.Proofs.Number.HalfAway

/-!
# Integers that floating point holds

An integer that is the value of some floating point number is the value of the one nearest to it
(`Binary64.ofInt_of_isExact`). Such are the integers of at most 53 bits, and these times powers of two
(`Binary64.isExact_of_natAbs_eq`).
-/

namespace TypedFormat

namespace Binary64

/-! ### Sign and magnitude -/

lemma infinityBits_lt : infinityBits < twoTo 63 := by decide

section Parts

variable (negative : Bool) {bits : Nat} (h : bits < infinityBits)

include h

lemma toNat_bits_ofMagnitudeBits :
    (ofMagnitudeBits negative bits).bits.toNat = if negative then twoTo 63 + bits else bits := by
  have htwo : twoTo 63 = 2 ^ 63 := rfl
  have hlt : bits < twoTo 63 := h.trans infinityBits_lt
  show (UInt64.ofNat _).toNat = _
  rw [UInt64.toNat_ofNat', Nat.mod_eq_of_lt]
  split_ifs <;> omega

lemma negative_ofMagnitudeBits : (ofMagnitudeBits negative bits).negative = negative := by
  have hlt : bits < twoTo 63 := h.trans infinityBits_lt
  rw [Binary64.negative, toNat_bits_ofMagnitudeBits negative h]
  cases negative with
  | false => simpa using hlt
  | true => simp

lemma magnitudeBits_ofMagnitudeBits : (ofMagnitudeBits negative bits).magnitudeBits = bits := by
  have hlt : bits < twoTo 63 := h.trans infinityBits_lt
  rw [magnitudeBits, toNat_bits_ofMagnitudeBits negative h]
  cases negative with
  | false => exact Nat.mod_eq_of_lt hlt
  | true =>
    rw [if_pos rfl, Nat.add_mod_left]
    exact Nat.mod_eq_of_lt hlt

lemma isFinite_ofMagnitudeBits : (ofMagnitudeBits negative bits).isFinite = true := by
  rw [isFinite, magnitudeBits_ofMagnitudeBits negative h]
  exact decide_eq_true h

lemma dyadic_ofMagnitudeBits : (ofMagnitudeBits negative bits).dyadic = dyadicOfBits bits := by
  rw [dyadic, magnitudeBits_ofMagnitudeBits negative h]

end Parts

section Finite

variable {x : Binary64} (h : x.isFinite = true)

include h

lemma magnitudeBits_lt : x.magnitudeBits < infinityBits := of_decide_eq_true h

lemma isNaN_eq_false : x.isNaN = false := by
  simpa [isNaN] using (magnitudeBits_lt h).le

lemma isInfinite_eq_false : x.isInfinite = false := by
  simpa [isInfinite] using (magnitudeBits_lt h).ne

end Finite

/-! ### Values -/

/-- The value of a finite number. -/
def value (x : Binary64) : ℚ :=
  if x.negative then -x.dyadic.value else x.dyadic.value

/-- The integer is the value of a finite number. -/
def IsExact (v : Int) : Prop :=
  ∃ x : Binary64, x.isFinite = true ∧ x.value = v

lemma abs_value (x : Binary64) : |x.value| = x.dyadic.value := by
  have hnonneg : 0 ≤ x.dyadic.value := by
    unfold Dyadic.value
    positivity
  unfold value
  split_ifs
  · rw [abs_neg, abs_of_nonneg hnonneg]
  · exact abs_of_nonneg hnonneg

variable {v : Int}

/-- The sign is free, so what counts is the magnitude. -/
lemma isExact_iff :
    IsExact v ↔ ∃ bits < infinityBits, (dyadicOfBits bits).value = v.natAbs := by
  constructor
  · rintro ⟨x, hfinite, hvalue⟩
    refine ⟨x.magnitudeBits, magnitudeBits_lt hfinite, ?_⟩
    show x.dyadic.value = _
    rw [← x.abs_value, hvalue, Nat.cast_natAbs, Int.cast_abs]
  · rintro ⟨bits, hbits, hvalue⟩
    refine ⟨ofMagnitudeBits (v < 0) bits, isFinite_ofMagnitudeBits _ hbits, ?_⟩
    rw [value, dyadic_ofMagnitudeBits _ hbits, negative_ofMagnitudeBits _ hbits, hvalue,
      Nat.cast_natAbs]
    simp only [decide_eq_true_eq]
    split_ifs with hneg
    · rw [abs_of_neg hneg, Int.cast_neg, neg_neg]
    · rw [abs_of_nonneg (not_lt.mp hneg)]

/-- A whole magnitude that a pattern has is rounded to that pattern. -/
lemma nearestBits_of_value_eq {bits n : Nat} (hbits : bits < infinityBits)
    (hvalue : (dyadicOfBits bits).value = n) : nearestBits n 1 = bits := by
  have hpos : 0 < (dyadicOfBits bits).denominator := (dyadicOfBits bits).denominator_pos
  have hne : ((dyadicOfBits bits).denominator : ℚ) ≠ 0 := Nat.cast_ne_zero.mpr hpos.ne'
  have hnumerator : (dyadicOfBits bits).numerator = n * (dyadicOfBits bits).denominator := by
    rw [Dyadic.value_eq_div, div_eq_iff hne] at hvalue
    exact_mod_cast hvalue
  have hexact := nearestBits_dyadicOfBits hbits
  rw [hnumerator, ← Nat.one_mul (dyadicOfBits bits).denominator, ← Nat.mul_assoc, Nat.mul_one,
    nearestBits_mul_right n (by decide) hpos] at hexact
  exact hexact

/-- The number nearest to an exact integer has its magnitude and its sign. -/
lemma ofInt_of_isExact (h : IsExact v) :
    (ofInt v).isFinite = true ∧ (ofInt v).negative = decide (v < 0) ∧
      (ofInt v).dyadic.value = v.natAbs := by
  obtain ⟨bits, hbits, hvalue⟩ := isExact_iff.mp h
  have hofInt : ofInt v = ofMagnitudeBits (v < 0) bits := by
    rw [ofInt, nearestBits_of_value_eq hbits hvalue]
  rw [hofInt, dyadic_ofMagnitudeBits _ hbits]
  exact ⟨isFinite_ofMagnitudeBits _ hbits, negative_ofMagnitudeBits _ hbits, hvalue⟩

/-! ### Which integers are exact -/

lemma dyadicOfBits_of_normal {exponent fraction : Nat} (hexponent : exponent ≠ 0)
    (hfraction : fraction < twoTo 52) :
    dyadicOfBits (exponent * twoTo 52 + fraction) = ⟨fraction + twoTo 52, exponent - 1075⟩ := by
  have hdiv : (exponent * twoTo 52 + fraction) / twoTo 52 = exponent := by
    rw [Nat.mul_comm, Nat.mul_add_div (twoTo_pos 52), Nat.div_eq_of_lt hfraction, Nat.add_zero]
  have hmod : (exponent * twoTo 52 + fraction) % twoTo 52 = fraction := by
    rw [Nat.mul_comm, Nat.mul_add_mod, Nat.mod_eq_of_lt hfraction]
  unfold dyadicOfBits
  rw [hdiv, hmod, if_neg hexponent]

/-- Numbers of at most 53 bits are exact, and so are they times powers of two. -/
lemma isExact_of_natAbs_eq {mantissa k : Nat} (hmantissa : mantissa < 2 ^ 53) (hk : k ≤ 971)
    (h : v.natAbs = mantissa * 2 ^ k) : IsExact v := by
  rw [isExact_iff, h]
  by_cases hzero : mantissa = 0
  · refine ⟨0, by decide, ?_⟩
    simp [hzero, dyadicOfBits, Dyadic.value]
  -- The mantissa is shifted until it has 53 bits.
  have hlog : Nat.log2 mantissa < 53 := (Nat.log2_lt hzero).mpr hmantissa
  obtain ⟨shift, hshift⟩ : ∃ shift, Nat.log2 mantissa + shift = 52 :=
    ⟨52 - Nat.log2 mantissa, by omega⟩
  have hlow : twoTo 52 ≤ mantissa * 2 ^ shift := by
    rw [← hshift, twoTo_add]
    exact Nat.mul_le_mul_right _ (Nat.log2_self_le hzero)
  have hhigh : mantissa * 2 ^ shift < 2 * twoTo 52 := by
    rw [← hshift, twoTo_add, ← Nat.mul_assoc, Nat.mul_comm 2]
    exact Nat.mul_lt_mul_of_pos_right Nat.lt_log2_self (twoTo_pos shift)
  obtain ⟨fraction, hfraction⟩ := Nat.exists_eq_add_of_le' hlow
  have hexponent : k + 1075 - shift ≠ 0 := by omega
  have hlt : fraction < twoTo 52 := by omega
  refine ⟨(k + 1075 - shift) * twoTo 52 + fraction, ?_, ?_⟩
  · have hle : (k + 1075 - shift + 1) * twoTo 52 ≤ infinityBits :=
      Nat.mul_le_mul_right _ (by omega)
    rw [Nat.add_mul, Nat.one_mul] at hle
    omega
  · have hpower : ((k + 1075 - shift : Nat) : Int) - 1075 = k - shift := by omega
    rw [dyadicOfBits_of_normal hexponent hlt, Dyadic.value, ← hfraction, hpower,
      zpow_sub₀ two_ne_zero]
    simp only [zpow_natCast]
    push_cast
    field_simp

/-- In particular, all integers up to `2 ^ 53` are exact. -/
lemma isExact_of_natAbs_le (h : v.natAbs ≤ 2 ^ 53) : IsExact v := by
  rcases h.lt_or_eq with hlt | heq
  · exact isExact_of_natAbs_eq (k := 0) hlt (by decide) (by simp)
  · exact @isExact_of_natAbs_eq v 1 53 (by decide) (by decide) (by simpa using heq)

/-- The first integer behind these is rounded. -/
example : ofInt (2 ^ 53 + 1) = ofInt (2 ^ 53) := by decide +kernel

end Binary64

end TypedFormat
