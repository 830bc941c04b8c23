import Mathlib
import TypedFormat.Layout
import TypedFormat.Proofs.Number.Increment
import TypedFormat.Proofs.Number.Rounding

/-!
# Floats are rounded half away from zero

A magnitude in units of the last place lies halfway between two whole numbers just if the exponent of
its odd part says so (`Dyadic.isTie_iff`). Where it does, the numeral with one place more is exact and
ends in a five, so that dropping this digit and adding one unit rounds up; elsewhere rounding to even
is rounding to the nearest. In both cases the numeral is that of the greatest whole number of units which
is at most the exact value and a half more (`Dyadic.fixedPoint_eq`).
-/

namespace TypedFormat

/-! ### Halves -/

/-- A positive number is an odd number doubled as often as two divides it. -/
lemma exists_odd_mul_twoTo {n : Nat} (hn : n ≠ 0) : ∃ odd, odd % 2 = 1 ∧ n = odd * twoTo (twos n) := by
  induction n using Nat.strongRecOn with
  | ind n ih =>
    by_cases hodd : n % 2 = 1
    · refine ⟨n, hodd, ?_⟩
      rw [twos, dif_pos (.inr hodd), twoTo_zero, Nat.mul_one]
    · obtain ⟨odd, hmod, hhalf⟩ := ih (n / 2) (by omega) (by omega)
      refine ⟨odd, hmod, ?_⟩
      rw [twos, dif_neg (by omega), twoTo_succ, ← Nat.mul_assoc, ← hhalf]
      omega

/-- What is left of an odd number of doublings is half of a power of two only one doubling further on. -/
lemma two_mul_mod_twoTo_iff {odd j n : Nat} (hodd : odd % 2 = 1) :
    2 * (odd * twoTo j % twoTo n) = twoTo n ↔ j + 1 = n := by
  rcases Nat.lt_or_ge j n with hlt | hge
  · obtain ⟨k, rfl⟩ := Nat.exists_eq_add_of_lt hlt
    have hsplit : twoTo (j + k + 1) = 2 * twoTo k * twoTo j := by
      rw [Nat.add_assoc, Nat.add_comm, twoTo_add, twoTo_succ, Nat.mul_comm (twoTo k)]
    rw [hsplit, Nat.mul_mod_mul_right, ← Nat.mul_assoc, Nat.mul_left_inj (twoTo_pos j).ne']
    cases k with
    | zero => simp [hodd]
    | succ k =>
      refine iff_of_false ?_ (by omega)
      have hmod : odd % (2 * twoTo (k + 1)) % 2 = 1 := by
        rw [Nat.mod_mul_right_mod, hodd]
      rw [twoTo_succ] at hmod ⊢
      omega
  · obtain ⟨k, rfl⟩ := Nat.exists_eq_add_of_le hge
    have hzero : odd * twoTo (n + k) % twoTo n = 0 := by
      rw [twoTo_add, Nat.mul_left_comm]
      exact Nat.mul_mod_right _ _
    have hpos := twoTo_pos n
    rw [hzero]
    exact iff_of_false (by omega) (by omega)

namespace Binary64

/-- Away from halves, rounding is to the nearest. -/
lemma roundHalfEven_of_ne {num den : Nat} (hden : 0 < den) (h : 2 * (num % den) ≠ den) :
    roundHalfEven num den = (2 * num + den) / (2 * den) := by
  have hrest : num % den < den := Nat.mod_lt num hden
  have hnum : 2 * num + den = 2 * den * (num / den) + (2 * (num % den) + den) := by
    have hdivmod := Nat.div_add_mod num den
    rw [Nat.mul_assoc]
    omega
  rw [hnum, Nat.mul_add_div (by omega)]
  unfold roundHalfEven
  dsimp only
  split_ifs with hbelow habove
  · have hnone : (2 * (num % den) + den) / (2 * den) = 0 := Nat.div_eq_of_lt (by omega)
    rw [hnone, Nat.add_zero]
  · have hone : (2 * (num % den) + den) / (2 * den) = 1 :=
      Nat.div_eq_of_lt_le (by omega) (by omega)
    rw [hone]
  · omega
  · omega

end Binary64

namespace Dyadic

variable (x : Dyadic) (places : Nat)

/-! ### Exact values -/

/-- The exact magnitude. -/
def value : ℚ :=
  x.mantissa * (2 : ℚ) ^ x.exponent

lemma value_eq_div : x.value = x.numerator / x.denominator := by
  obtain ⟨mantissa, exponent⟩ := x
  rw [value, numerator, denominator, twoTo_eq, twoTo_eq]
  rcases le_total 0 exponent with hpos | hneg
  · lift exponent to ℕ using hpos
    simp
  · obtain ⟨n, rfl⟩ := Int.exists_eq_neg_ofNat hneg
    simp [div_eq_mul_inv]

/-- A magnitude in units of the last place, rounded to the nearest with ties away from zero. -/
def unitsHalfUp : Nat :=
  ⌊x.value * 10 ^ places + 1 / 2⌋₊

lemma unitsHalfUp_eq : x.unitsHalfUp places
    = (2 * (x.numerator * tenTo places) + x.denominator) / (2 * x.denominator) := by
  have hden : (x.denominator : ℚ) ≠ 0 := Nat.cast_ne_zero.mpr x.denominator_pos.ne'
  have hten : ((tenTo places : Nat) : ℚ) = 10 ^ places := Nat.cast_pow 10 places
  have hquotient : x.value * 10 ^ places + 1 / 2
      = ((2 * (x.numerator * tenTo places) + x.denominator : Nat) : ℚ)
        / ((2 * x.denominator : Nat) : ℚ) := by
    rw [value_eq_div]
    push_cast
    rw [hten]
    field_simp
  rw [unitsHalfUp, hquotient, Nat.floor_div_eq_div]

/-! ### Ties -/

/-- The test on the exponent finds the magnitudes that lie halfway between two whole numbers of units. -/
lemma isTie_iff :
    x.isTie places = true ↔ 2 * (x.numerator * tenTo places % x.denominator) = x.denominator := by
  obtain ⟨mantissa, exponent⟩ := x
  rw [isTie, Bool.and_eq_true, bne_iff_ne, beq_iff_eq, numerator, denominator]
  dsimp only
  by_cases hzero : mantissa = 0
  · have hpos := twoTo_pos (-exponent).toNat
    simp only [hzero, Nat.zero_mul, Nat.zero_mod, Nat.mul_zero]
    exact iff_of_false (fun h => h.1 rfl) (by omega)
  · obtain ⟨odd, hodd, hmantissa⟩ := exists_odd_mul_twoTo hzero
    have hfive : fiveTo places % 2 = 1 := by
      rw [fiveTo, Nat.pow_eq, Nat.pow_mod]
      simp
    -- Of the powers of ten only the twos matter: the fives leave the odd part odd.
    have hproduct : mantissa * twoTo exponent.toNat * tenTo places
        = odd * fiveTo places * twoTo (twos mantissa + exponent.toNat + places) := by
      conv_lhs => rw [hmantissa]
      rw [tenTo_eq, twoTo_add, twoTo_add]
      ac_rfl
    rw [hproduct, two_mul_mod_twoTo_iff (by rw [Nat.mul_mod, hodd, hfive])]
    constructor
    · rintro ⟨-, hexponent⟩
      omega
    · intro hexponent
      exact ⟨hzero, by omega⟩

variable {x places}

/-- At a tie the value has a five behind the last place, and nothing after that. -/
lemma numerator_of_isTie (h : x.isTie places = true) : x.numerator * tenTo (places + 1)
    = (10 * (x.numerator * tenTo places / x.denominator) + 5) * x.denominator := by
  rw [isTie_iff] at h
  calc x.numerator * tenTo (places + 1)
      = (x.denominator * (x.numerator * tenTo places / x.denominator)
          + x.numerator * tenTo places % x.denominator) * 10 := by
        rw [Nat.div_add_mod, tenTo_succ, Nat.mul_assoc]
    _ = 10 * (x.numerator * tenTo places / x.denominator) * x.denominator
          + 5 * (2 * (x.numerator * tenTo places % x.denominator)) := by ring
    _ = (10 * (x.numerator * tenTo places / x.denominator) + 5) * x.denominator := by
        rw [h, Nat.add_mul]

lemma unitsHalfEven_of_isTie (h : x.isTie places = true) :
    x.unitsHalfEven (places + 1) = 10 * (x.numerator * tenTo places / x.denominator) + 5 := by
  rw [unitsHalfEven, numerator_of_isTie h, Binary64.roundHalfEven_mul_self _ x.denominator_pos]

lemma unitsHalfUp_of_isTie (h : x.isTie places = true) :
    x.unitsHalfUp places = x.numerator * tenTo places / x.denominator + 1 := by
  rw [isTie_iff] at h
  have hwhole : 2 * (x.numerator * tenTo places) + x.denominator
      = (x.numerator * tenTo places / x.denominator + 1) * (2 * x.denominator) := by
    calc 2 * (x.numerator * tenTo places) + x.denominator
        = 2 * (x.denominator * (x.numerator * tenTo places / x.denominator)
            + x.numerator * tenTo places % x.denominator) + x.denominator := by
          rw [Nat.div_add_mod]
      _ = 2 * (x.denominator * (x.numerator * tenTo places / x.denominator))
            + (2 * (x.numerator * tenTo places % x.denominator) + x.denominator) := by ring
      _ = (x.numerator * tenTo places / x.denominator + 1) * (2 * x.denominator) := by
          rw [h]
          ring
  rw [unitsHalfUp_eq, hwhole, Nat.mul_div_cancel _ (Nat.mul_pos two_pos x.denominator_pos)]

lemma unitsHalfUp_of_not_isTie (h : ¬ x.isTie places = true) :
    x.unitsHalfUp places = x.unitsHalfEven places := by
  rw [isTie_iff] at h
  rw [unitsHalfUp_eq, unitsHalfEven, Binary64.roundHalfEven_of_ne x.denominator_pos h]

/-! ### Numerals -/

/-- Without its last digit, a numeral has one place less. -/
lemma dropLastDigit_placed (places units digit : Nat) (hdigit : digit < 10) :
    dropLastDigit (placed (places + 1) (10 * units + digit)) = placed places units := by
  have hdiv : (10 * units + digit) / 10 = units := by omega
  have hwhole : (10 * units + digit) / tenTo (places + 1) = units / tenTo places := by
    rw [tenTo_succ, Nat.mul_comm (tenTo places), ← Nat.div_div_eq_div_mul, hdiv]
  have hnumeral : placed (places + 1) (10 * units + digit)
      = (Nat.toDigits 10 (units / tenTo places) ++ '.' :: lastDigits places units)
        ++ [Nat.digitChar ((10 * units + digit) % 10)] := by
    rw [placed_eq, if_neg (Nat.succ_ne_zero places), hwhole, lastDigits, hdiv]
    simp
  unfold dropLastDigit
  dsimp only
  rw [hnumeral, List.dropLast_concat, placed_eq]
  cases places with
  | zero => simp [lastDigits]
  | succ places =>
    have hlast : (Nat.toDigits 10 (units / tenTo (places + 1)) ++ '.' :: lastDigits (places + 1) units)
        = (Nat.toDigits 10 (units / tenTo (places + 1)) ++ '.' :: lastDigits places (units / 10))
          ++ [Nat.digitChar (units % 10)] := by simp [lastDigits]
    have hdigit' := isDigit_digitChar (Nat.mod_lt units (show 10 > 0 by decide))
    have hne : Nat.digitChar (units % 10) ≠ '.' := by
      intro hpoint
      rw [hpoint] at hdigit'
      exact absurd hdigit' (by decide)
    rw [if_neg (by rw [hlast, List.getLast?_concat]; simp [hne]), if_neg (Nat.succ_ne_zero places)]

/-- The numeral of a magnitude is that of the nearest whole number of units, of the greater one at a
tie. -/
lemma fixedPoint_eq (x : Dyadic) (places : Nat) (alternate : Bool) :
    x.fixedPoint places alternate = Nat.toDigits 10 (x.unitsHalfUp places / tenTo places)
      ++ if places = 0 then if alternate then ['.'] else []
        else '.' :: lastDigits places (x.unitsHalfUp places) := by
  have hnumeral : (if x.isTie places then
        incrementLast (dropLastDigit (placed (places + 1) (x.unitsHalfEven (places + 1))))
      else placed places (x.unitsHalfEven places)) = placed places (x.unitsHalfUp places) := by
    split_ifs with htie
    · rw [unitsHalfEven_of_isTie htie, dropLastDigit_placed _ _ _ (by decide), incrementLast_placed,
        unitsHalfUp_of_isTie htie]
    · rw [unitsHalfUp_of_not_isTie htie]
  unfold fixedPoint
  dsimp only
  rw [hnumeral, placed_eq]
  by_cases hplaces : places = 0
  · cases alternate <;> simp [hplaces]
  · simp [hplaces]

end Dyadic

namespace Layout

/-- Without a width, the text of a finite float is its sign and the exact magnitude, rounded to the
places that are asked for with ties away from zero. -/
theorem place_float_of_isFinite (layout : Layout) {x : Binary64} (hfinite : x.isFinite = true)
    (hwidth : layout.width = 0) :
    let places := layout.precision.getD defaultPlaces
    let units := ⌊x.dyadic.value * 10 ^ places + 1 / 2⌋₊
    ∃ fraction : List Char,
      fraction.length = places ∧ (∀ c ∈ fraction, c.isDigit = true) ∧
      Nat.ofDigitChars 10 fraction 0 = units % 10 ^ places ∧
      layout.place (layout.float x)
        = (if x.negative then ['-'] else if layout.flags.showSign then ['+'] else [])
          ++ (Nat.toDigits 10 (units / 10 ^ places)
            ++ if places = 0 then if layout.flags.alternate then ['.'] else [] else '.' :: fraction) := by
  intro places units
  have hbelow : x.magnitudeBits < Binary64.infinityBits := by simpa [Binary64.isFinite] using hfinite
  have hnan : x.isNaN = false := by simpa [Binary64.isNaN] using hbelow.le
  have hinfinite : x.isInfinite = false := by simpa [Binary64.isInfinite] using hbelow.ne
  have hsign : layout.floatSign x
      = if x.negative then ['-'] else if layout.flags.showSign then ['+'] else [] := by
    simp only [floatSign, hnan, Bool.not_false, Bool.and_true]
  have hcontent : layout.float x
      = ⟨layout.floatSign x, x.dyadic.fixedPoint places layout.flags.alternate, layout.zeroFill⟩ := by
    simp only [float, hnan, hinfinite, Bool.false_eq_true, if_false, places]
  have hplace : ∀ content : Content, layout.place content = content.lead ++ content.body := by
    intro content
    simp [place, Content.justify, hwidth]
  refine ⟨lastDigits places units, length_lastDigits places units, isDigit_of_mem_lastDigits,
    ofDigitChars_lastDigits places units, ?_⟩
  rw [hplace, hcontent, hsign]
  dsimp only
  rw [Dyadic.fixedPoint_eq]
  rfl

/-- Minus an eighth lies halfway between two numerals with two places. -/
theorem place_float_of_minus_eighth :
    let layout : Layout := { precision := some 2, conversion := .float }
    let x : Binary64 := ⟨0xBFC0000000000000⟩
    (x.isFinite = true ∧ layout.width = 0) ∧ x.dyadic.value = 1 / 8 ∧
      ∃ fraction : List Char, fraction.length = 2 ∧ (∀ c ∈ fraction, c.isDigit = true) ∧
        Nat.ofDigitChars 10 fraction 0 = 13 ∧
        layout.place (layout.float x) = "-0.".toList ++ fraction := by
  intro layout x
  have hfinite : x.isFinite = true := by decide
  have hvalue : x.dyadic.value = 1 / 8 := by
    have hdyadic : x.dyadic = ⟨twoTo 52, -55⟩ := by decide
    norm_num [hdyadic, Dyadic.value, twoTo]
  have hunits : ⌊x.dyadic.value * 10 ^ 2 + 1 / 2⌋₊ = 13 := by
    rw [hvalue, Nat.floor_eq_iff (by norm_num)]
    norm_num
  refine ⟨⟨hfinite, rfl⟩, hvalue, ?_⟩
  obtain ⟨fraction, hlength, hdigits, hread, htext⟩ := place_float_of_isFinite layout hfinite rfl
  have hplaces : layout.precision.getD defaultPlaces = 2 := rfl
  rw [hplaces, hunits] at hread htext
  rw [hplaces] at hlength
  exact ⟨fraction, hlength, hdigits, hread, htext⟩

end Layout

end TypedFormat
