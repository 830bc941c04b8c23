import Mathlib
import TypedFormat.Number.Shortest

/-!
# Rounding to the nearest pattern

`Binary64.nearestBits` depends on a quotient and not on how it is written (`nearestBits_mul_right`),
and the exact value of a pattern rounds to that pattern (`nearestBits_dyadicOfBits`). So the shortest
decimal of a pattern reads as that pattern (`Shortest.bits_ofBits`), also where the search for it
ends at the exact value.
-/

namespace TypedFormat

lemma twoTo_eq (n : Nat) : twoTo n = 2 ^ n := rfl

lemma twoTo_add (m n : Nat) : twoTo (m + n) = twoTo m * twoTo n := by
  simp only [twoTo_eq, Nat.pow_add]

lemma tenTo_eq (n : Nat) : tenTo n = twoTo n * fiveTo n := by
  have h : (2 * 5) ^ n = 2 ^ n * 5 ^ n := Nat.mul_pow 2 5 n
  exact h

namespace Binary64

/-! ### Whole numbers -/

lemma roundHalfEven_mul_right (num den : Nat) {c : Nat} (hc : 0 < c) :
    roundHalfEven (num * c) (den * c) = roundHalfEven num den := by
  have htwice : 2 * (num % den * c) = 2 * (num % den) * c := (Nat.mul_assoc _ _ _).symm
  unfold roundHalfEven
  simp only [Nat.mul_div_mul_right _ _ hc, Nat.mul_mod_mul_right, htwice, Nat.mul_lt_mul_right hc]

lemma roundHalfEven_mul_self (n : Nat) {den : Nat} (hden : 0 < den) :
    roundHalfEven (n * den) den = n := by
  unfold roundHalfEven
  simp [Nat.mul_div_cancel n hden, hden]

/-! ### The order of a quotient -/

/-- The quotient is at least `2 ^ k`. -/
def Reaches (num den : Nat) (k : Int) : Prop :=
  den * twoTo k.toNat ≤ num * twoTo (-k).toNat

/-- The same with both sides scaled by a power of two. -/
lemma reaches_iff {num den : Nat} {k : Int} (s : Nat) (hs : 0 ≤ k + s) :
    Reaches num den k ↔ den * twoTo (k + s).toNat ≤ num * twoTo s := by
  obtain ⟨t, ht⟩ : ∃ t, s = (-k).toNat + t := ⟨s - (-k).toNat, by omega⟩
  have hk : (k + s).toNat = k.toNat + t := by omega
  rw [hk, ht, twoTo_add, twoTo_add, ← Nat.mul_assoc, ← Nat.mul_assoc,
    Nat.mul_le_mul_right_iff (twoTo_pos t)]
  exact Iff.rfl

lemma Reaches.mono {num den : Nat} {j k : Int} (h : Reaches num den k) (hjk : j ≤ k) :
    Reaches num den j := by
  have hj : 0 ≤ j + j.natAbs := by omega
  have hk : 0 ≤ k + j.natAbs := by omega
  rw [reaches_iff j.natAbs hk] at h
  rw [reaches_iff j.natAbs hj]
  refine Nat.le_trans (Nat.mul_le_mul_left den ?_) h
  exact Nat.pow_le_pow_right (by decide) (by omega)

lemma reaches_mul_right {num den c : Nat} {k : Int} (hc : 0 < c) :
    Reaches (num * c) (den * c) k ↔ Reaches num den k := by
  unfold Reaches
  rw [Nat.mul_right_comm den, Nat.mul_right_comm num, Nat.mul_le_mul_right_iff hc]

section Order

variable {num den : Nat}

lemma reaches_guess_sub_one (hnum : num ≠ 0) :
    Reaches num den ((Nat.log2 num : Int) - Nat.log2 den - 1) := by
  rw [reaches_iff (Nat.log2 den + 1) (by omega)]
  have hexponent : ((Nat.log2 num : Int) - Nat.log2 den - 1 + (Nat.log2 den + 1 : Nat)).toNat
      = Nat.log2 num := by omega
  rw [hexponent, Nat.mul_comm den]
  exact Nat.mul_le_mul (Nat.log2_self_le hnum) (Nat.le_of_lt Nat.lt_log2_self)

lemma not_reaches_guess_add_one (hden : den ≠ 0) :
    ¬ Reaches num den ((Nat.log2 num : Int) - Nat.log2 den + 1) := by
  rw [reaches_iff (Nat.log2 den) (by omega), Nat.not_le]
  have hexponent : ((Nat.log2 num : Int) - Nat.log2 den + 1 + (Nat.log2 den : Nat)).toNat
      = Nat.log2 num + 1 := by omega
  rw [hexponent, Nat.mul_comm den]
  exact Nat.mul_lt_mul_of_lt_of_le Nat.lt_log2_self (Nat.log2_self_le hden)
    (Nat.pos_of_ne_zero hden)

/-- The order of a quotient is the greatest power of two that it reaches. -/
lemma le_binaryOrder_iff (hnum : num ≠ 0) (hden : den ≠ 0) {k : Int} :
    k ≤ binaryOrder num den ↔ Reaches num den k := by
  unfold binaryOrder
  dsimp only
  split_ifs with hguess
  · constructor
    · exact fun h => Reaches.mono hguess h
    · intro h
      by_contra hlt
      exact not_reaches_guess_add_one hden (h.mono (by omega))
  · constructor
    · exact fun h => (reaches_guess_sub_one hnum).mono h
    · intro h
      by_contra hlt
      exact hguess (h.mono (by omega))

end Order

lemma binaryOrder_mul_right {num den c : Nat} (hnum : num ≠ 0) (hden : den ≠ 0) (hc : 0 < c) :
    binaryOrder (num * c) (den * c) = binaryOrder num den := by
  have hiff : ∀ k, k ≤ binaryOrder (num * c) (den * c) ↔ k ≤ binaryOrder num den := by
    intro k
    rw [le_binaryOrder_iff (Nat.mul_ne_zero hnum hc.ne') (Nat.mul_ne_zero hden hc.ne'),
      le_binaryOrder_iff hnum hden, reaches_mul_right hc]
  exact le_antisymm ((hiff _).mp le_rfl) ((hiff _).mpr le_rfl)

/-- Rounding depends on the quotient alone. -/
lemma nearestBits_mul_right (num : Nat) {den c : Nat} (hden : den ≠ 0) (hc : 0 < c) :
    nearestBits (num * c) (den * c) = nearestBits num den := by
  by_cases hnum : num = 0
  · simp only [hnum, Nat.zero_mul, nearestBits, if_true]
  · have hne : num * c ≠ 0 := Nat.mul_ne_zero hnum hc.ne'
    unfold nearestBits
    rw [if_neg hnum, if_neg hne, binaryOrder_mul_right hnum hden hc]
    dsimp only
    rw [Nat.mul_right_comm num, Nat.mul_right_comm den, roundHalfEven_mul_right _ _ hc]

/-! ### Exact values -/

lemma reaches_dyadic {x : Dyadic} {k : Int} :
    Reaches x.numerator x.denominator k ↔ Reaches x.mantissa 1 (k - x.exponent) := by
  obtain ⟨mantissa, exponent⟩ := x
  have hs : 0 ≤ k + ((-exponent).toNat + k.natAbs : Nat) := by omega
  have hs' : 0 ≤ k - exponent + (exponent.toNat + ((-exponent).toNat + k.natAbs) : Nat) := by omega
  rw [reaches_iff _ hs, reaches_iff _ hs']
  have hleft : (k - exponent + (exponent.toNat + ((-exponent).toNat + k.natAbs) : Nat)).toNat
      = (-exponent).toNat + (k + ((-exponent).toNat + k.natAbs : Nat)).toNat := by omega
  simp only [Dyadic.numerator, Dyadic.denominator, hleft, twoTo_add, Nat.one_mul, Nat.mul_assoc]

/-- A mantissa of 53 bits, or of fewer on the last grid, is the count of the steps of its grid. -/
lemma nearestBits_of_grid {x : Dyadic} (hpos : x.mantissa ≠ 0) (hlt : x.mantissa < 2 ^ 53)
    (hgrid : -1074 ≤ x.exponent) (hfull : 2 ^ 52 ≤ x.mantissa ∨ x.exponent = -1074) :
    nearestBits x.numerator x.denominator
      = min infinityBits ((x.exponent + 1074).toNat * twoTo 52 + x.mantissa) := by
  have hnum : x.numerator ≠ 0 := Nat.mul_ne_zero hpos (twoTo_pos _).ne'
  have hden : x.denominator ≠ 0 := x.denominator_pos.ne'
  have hbelow : binaryOrder x.numerator x.denominator < x.exponent + 53 := by
    rw [← Int.not_le, le_binaryOrder_iff hnum hden, reaches_dyadic]
    have hk : x.exponent + 53 - x.exponent = 53 := by omega
    rw [hk]
    show ¬ 1 * 2 ^ 53 ≤ x.mantissa * 1
    omega
  have hexponent : max (-1074) (binaryOrder x.numerator x.denominator - 52) = x.exponent := by
    rcases hfull with hfull | hlast
    · have hreach : x.exponent + 52 ≤ binaryOrder x.numerator x.denominator := by
        rw [le_binaryOrder_iff hnum hden, reaches_dyadic]
        have hk : x.exponent + 52 - x.exponent = 52 := by omega
        rw [hk]
        show 1 * 2 ^ 52 ≤ x.mantissa * 1
        omega
      omega
    · omega
  have hcount : roundHalfEven (x.numerator * twoTo (-x.exponent).toNat)
      (x.denominator * twoTo x.exponent.toNat) = x.mantissa := by
    have hden' : 0 < twoTo x.exponent.toNat * twoTo (-x.exponent).toNat :=
      Nat.mul_pos (twoTo_pos _) (twoTo_pos _)
    rw [Dyadic.numerator, Dyadic.denominator, Nat.mul_assoc,
      Nat.mul_comm (twoTo (-x.exponent).toNat)]
    exact roundHalfEven_mul_self _ hden'
  unfold nearestBits
  rw [if_neg hnum, hexponent]
  dsimp only
  rw [hcount]

/-- No pattern is on a finer grid than the last one. -/
lemma exponent_dyadicOfBits (bits : Nat) : -1074 ≤ (dyadicOfBits bits).exponent := by
  unfold dyadicOfBits
  dsimp only
  split_ifs with hsub
  · exact le_rfl
  · have hone : 1 ≤ bits / twoTo 52 := Nat.pos_of_ne_zero hsub
    dsimp only
    omega

/-- The exact value of a pattern rounds to that pattern. -/
lemma nearestBits_dyadicOfBits {bits : Nat} (h : bits < infinityBits) :
    nearestBits (dyadicOfBits bits).numerator (dyadicOfBits bits).denominator = bits := by
  have hdivmod : twoTo 52 * (bits / twoTo 52) + bits % twoTo 52 = bits := Nat.div_add_mod _ _
  have hfraction : bits % twoTo 52 < 2 ^ 52 := Nat.mod_lt _ (twoTo_pos 52)
  have htwo : twoTo 52 = 2 ^ 52 := rfl
  by_cases hsub : bits / twoTo 52 = 0
  · -- On the last grid the pattern is the mantissa itself.
    have hbits : bits % twoTo 52 = bits := by
      rwa [hsub, Nat.mul_zero, Nat.zero_add] at hdivmod
    have hx : dyadicOfBits bits = ⟨bits, -1074⟩ := by
      unfold dyadicOfBits
      rw [if_pos hsub, hbits]
    rw [hx]
    by_cases hzero : bits = 0
    · simp only [hzero, Dyadic.numerator, Nat.zero_mul, nearestBits, if_true]
    · rw [nearestBits_of_grid (x := ⟨bits, -1074⟩) hzero (by dsimp only; omega) le_rfl
        (.inr rfl)]
      simp only [Int.reduceNeg, neg_add_cancel, Int.toNat_zero, Nat.zero_mul, Nat.zero_add]
      exact Nat.min_eq_right (Nat.le_of_lt h)
  · have hx : dyadicOfBits bits
        = ⟨bits % twoTo 52 + twoTo 52, (bits / twoTo 52 : Nat) - 1075⟩ := by
      unfold dyadicOfBits
      rw [if_neg hsub]
    have hgrid := exponent_dyadicOfBits bits
    rw [hx] at hgrid
    rw [hx, nearestBits_of_grid (by dsimp only; omega) (by dsimp only; omega) hgrid
      (.inl (by dsimp only; omega))]
    have hstep : (((bits / twoTo 52 : Nat) : Int) - 1075 + 1074).toNat = bits / twoTo 52 - 1 := by
      omega
    dsimp only
    rw [hstep, Nat.sub_mul]
    have hsum : bits / twoTo 52 * twoTo 52 - 1 * twoTo 52 + (bits % twoTo 52 + twoTo 52) = bits := by
      rw [Nat.mul_comm] at hdivmod
      have : 1 ≤ bits / twoTo 52 := Nat.pos_of_ne_zero hsub
      have := Nat.mul_le_mul_right (twoTo 52) this
      omega
    rw [hsum]
    exact Nat.min_eq_right (Nat.le_of_lt h)

end Binary64

/-! ### Decimals that read as a pattern -/

namespace Decimal

/-- Within the range in which the order does not decide, the bits are those of the quotient. -/
lemma bits_eq_nearestBits {d : Decimal} (hexponent : d.exponent ≤ 400) (horder : -400 ≤ d.order) :
    d.bits = Binary64.nearestBits (d.significand * tenTo d.exponent.toNat)
      (tenTo (-d.exponent).toNat) := by
  unfold bits
  by_cases hzero : d.significand = 0
  · simp only [hzero, Nat.zero_mul, Binary64.nearestBits, if_true]
  · rw [if_neg hzero, if_neg (by omega), if_neg (by omega)]

/-- A decimal has a digit at least. -/
lemma exponent_le_order (d : Decimal) : d.exponent ≤ d.order := by
  have hlength : 0 < d.digits.length := Nat.length_toDigits_pos
  unfold order
  omega

/-- The same magnitude without a positive power of ten, as it is read from its positions. -/
def withoutPower (d : Decimal) : Decimal :=
  ⟨d.significand * tenTo d.exponent.toNat, -((-d.exponent).toNat : Int)⟩

/-- Nothing is lost where the magnitude is not beyond the numbers. -/
lemma bits_withoutPower {d : Decimal} (h : d.bits < Binary64.infinityBits) :
    d.withoutPower.bits = d.bits := by
  by_cases hexponent : 0 ≤ d.exponent
  · have hdown : (-d.exponent).toNat = 0 := by omega
    have heq : d.withoutPower = ⟨d.significand * tenTo d.exponent.toNat, 0⟩ := by
      rw [withoutPower, hdown]
      rfl
    by_cases hzero : d.significand = 0
    · simp [bits, heq, hzero]
    · have hsmall : d.exponent ≤ 400 := by
        by_contra hlarge
        rw [bits, if_neg hzero, if_pos (by omega)] at h
        exact absurd h (Nat.lt_irrefl _)
      have horder := d.exponent_le_order
      have horder' : 0 ≤ d.withoutPower.order := by
        rw [heq]
        exact exponent_le_order _
      rw [heq] at horder' ⊢
      rw [bits_eq_nearestBits hsmall (by omega), bits_eq_nearestBits (by simp) (by omega), hdown]
      simp
  · have hup : d.exponent.toNat = 0 := by omega
    have heq : d.withoutPower = d := by
      obtain ⟨significand, exponent⟩ := d
      simp only [withoutPower, hup, tenTo_zero, Nat.mul_one, Decimal.mk.injEq, true_and]
      dsimp only at hexponent
      omega
    rw [heq]

end Decimal

namespace Shortest

open Binary64

/-- Five is more than four. -/
lemma twoTo_le_fiveTo {k n : Nat} (hk : k ≤ 2 * n) : twoTo k ≤ fiveTo n :=
  calc
    2 ^ k ≤ 2 ^ (2 * n) := Nat.pow_le_pow_right (by decide) hk
    _ = 4 ^ n := Nat.pow_mul 2 2 n
    _ ≤ 5 ^ n := Nat.pow_le_pow_left (by decide) n

lemma tenTo_le_fiveTo {k n : Nat} (hk : k ≤ 2 * n) : tenTo k ≤ fiveTo (n + k) := by
  have hfive : fiveTo (n + k) = fiveTo n * fiveTo k := Nat.pow_add 5 n k
  rw [tenTo_eq, hfive]
  exact Nat.mul_le_mul_right _ (twoTo_le_fiveTo hk)

/-- An exact value is far above the order below which a decimal is taken for zero. -/
lemma le_order_exact {x : Dyadic} (hpos : x.mantissa ≠ 0) (hgrid : -1074 ≤ x.exponent) :
    -400 ≤ (exact x).order := by
  have hlength : 0 < (Nat.toDigits 10 (exact x).significand).length := Nat.length_toDigits_pos
  have horder : (exact x).order
      = min 0 x.exponent + (Nat.toDigits 10 (exact x).significand).length - 1 := rfl
  by_cases hsmall : -400 ≤ x.exponent
  · omega
  · obtain ⟨k, hk⟩ : ∃ k : Nat, (-x.exponent).toNat = 400 + k :=
      ⟨(-x.exponent).toNat - 400, by omega⟩
    have hsignificand : tenTo k ≤ (exact x).significand := by
      have hnumerator : 1 ≤ x.numerator :=
        Nat.mul_pos (Nat.pos_of_ne_zero hpos) (twoTo_pos _)
      show tenTo k ≤ x.numerator * fiveTo (-x.exponent).toNat
      rw [hk]
      have hle := Nat.mul_le_mul hnumerator (tenTo_le_fiveTo (k := k) (n := 400) (by omega))
      rwa [Nat.one_mul] at hle
    have hdigits : ¬ (Nat.toDigits 10 (exact x).significand).length ≤ k := by
      rw [Nat.length_toDigits_le_iff (by decide) (by omega)]
      exact Nat.not_lt.mpr hsignificand
    omega

/-- The exact value of a pattern reads as that pattern. -/
lemma bits_exact {bits : Nat} (h : bits < infinityBits) (hpos : (dyadicOfBits bits).mantissa ≠ 0) :
    (exact (dyadicOfBits bits)).bits = bits := by
  have hgrid : -1074 ≤ (dyadicOfBits bits).exponent := exponent_dyadicOfBits bits
  have hexponent : (exact (dyadicOfBits bits)).exponent = min 0 (dyadicOfBits bits).exponent := rfl
  rw [Decimal.bits_eq_nearestBits (by omega) (le_order_exact hpos hgrid), hexponent]
  generalize hx : dyadicOfBits bits = x at *
  have hup : (min 0 x.exponent).toNat = 0 := by omega
  have hdown : (-min 0 x.exponent).toNat = (-x.exponent).toNat := by omega
  have hdenominator : tenTo (-x.exponent).toNat = x.denominator * fiveTo (-x.exponent).toNat :=
    tenTo_eq _
  rw [hup, hdown, tenTo_zero, Nat.mul_one, hdenominator]
  have hfive : 0 < fiveTo (-x.exponent).toNat := Nat.pow_pos (by decide)
  show nearestBits (x.numerator * fiveTo (-x.exponent).toNat) _ = bits
  rw [nearestBits_mul_right _ x.denominator_pos.ne' hfive, ← hx]
  exact nearestBits_dyadicOfBits h

lemma nearer_eq (tie : TieRule) (lower upper : Decimal) (floor rest whole : Nat) :
    nearer tie lower upper floor rest whole = lower ∨
      nearer tie lower upper floor rest whole = upper := by
  cases tie <;> simp only [nearer] <;> split_ifs <;> simp

/-- What a grid offers reads as the pattern. -/
lemma bits_onGrid {tie : TieRule} {bits num den : Nat} {exponent : Int} {d : Decimal}
    (h : onGrid tie bits num den exponent = some d) : d.bits = bits := by
  unfold onGrid at h
  dsimp only at h
  split at h
  · next hlower hupper =>
    obtain rfl := Option.some.inj h
    rcases nearer_eq tie _ _ _ _ _ with heq | heq
    · rw [heq]
      exact beq_iff_eq.mp hlower
    · rw [heq]
      exact beq_iff_eq.mp hupper
  · next hlower _ =>
    obtain rfl := Option.some.inj h
    exact beq_iff_eq.mp hlower
  · next _ hupper =>
    obtain rfl := Option.some.inj h
    exact beq_iff_eq.mp hupper
  · cases h

/-- The shortest decimal of a pattern reads as that pattern. -/
lemma bits_ofBits (tie : TieRule) {bits : Nat} (h : bits < infinityBits) :
    (ofBits tie bits).bits = bits := by
  unfold ofBits
  dsimp only
  split_ifs with hzero
  · have hbits : bits = 0 := by
      have hexact := nearestBits_dyadicOfBits h
      rw [Dyadic.numerator, hzero, Nat.zero_mul] at hexact
      simpa [nearestBits] using hexact.symm
    rw [hbits]
    rfl
  · generalize List.map _ (List.range 17) = grids
    cases hgrid : grids.findSome? (onGrid tie bits (dyadicOfBits bits).numerator
        (dyadicOfBits bits).denominator) with
    | none => exact bits_exact h hzero
    | some d =>
      obtain ⟨exponent, -, hd⟩ := List.exists_of_findSome?_eq_some hgrid
      exact bits_onGrid hd

end Shortest

namespace Binary64

lemma bits_shortest (tie : TieRule) {x : Binary64} (h : x.isFinite = true) :
    (x.shortest tie).bits = x.magnitudeBits :=
  Shortest.bits_ofBits tie (of_decide_eq_true h)

/-- A number is its sign and its magnitude bits. -/
lemma ofMagnitudeBits_magnitudeBits (x : Binary64) :
    ofMagnitudeBits x.negative x.magnitudeBits = x := by
  obtain ⟨bits⟩ := x
  have hlt : bits.toNat < 2 ^ 64 := bits.toNat_lt
  have htwo : twoTo 63 = 2 ^ 63 := rfl
  have hbits : (if negative ⟨bits⟩ = true then twoTo 63 + magnitudeBits ⟨bits⟩
      else magnitudeBits ⟨bits⟩) = bits.toNat := by
    simp only [negative, magnitudeBits, decide_eq_true_eq, htwo]
    split_ifs <;> omega
  unfold ofMagnitudeBits
  rw [hbits, UInt64.ofNat_toNat]

end Binary64

end TypedFormat
