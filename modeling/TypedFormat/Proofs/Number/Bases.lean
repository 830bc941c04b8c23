import Mathlib
import TypedFormat.Layout

/-!
# Numerals in the base of a conversion

Each conversion has an alphabet of digits in the order of their values. The digits of a magnitude are
of this alphabet, no more than are needed, and write the magnitude (`Layout.valueOf_digits`), also with
zeros in front of them.
-/

namespace TypedFormat

namespace Conversion

/-- The digits in the base of a conversion, in the order of their values. -/
def alphabet (c : Conversion) : List Char :=
  (if c = .hexUpper then "0123456789ABCDEF" else "0123456789abcdef").toList.take c.radix

/-- The number that digits in the base of a conversion write. -/
def valueOf (c : Conversion) (digits : List Char) : Nat :=
  digits.foldl (fun n digit => n * c.radix + c.alphabet.idxOf digit) 0

/-- What stands before the digits in the alternate form. -/
def marker : Conversion → List Char
  | .octal    => ['0']
  | .hexLower => ['0', 'x']
  | .hexUpper => ['0', 'X']
  | _         => []

/-- The digit of a value below the base. -/
def digit (c : Conversion) (value : Nat) : Char :=
  if c = .hexUpper then (Nat.digitChar value).toUpper else Nat.digitChar value

variable (c : Conversion)

lemma one_lt_radix : 1 < c.radix := by
  cases c <;> decide

lemma zero_mem_alphabet : '0' ∈ c.alphabet := by
  cases c <;> decide

/-- Neither signs nor spaces are digits. -/
lemma not_mem_alphabet {x : Char} (hx : x = '-' ∨ x = '+' ∨ x = ' ') : x ∉ c.alphabet := by
  rcases hx with rfl | rfl | rfl <;> cases c <;> decide

lemma length_alphabet : c.alphabet.length = c.radix := by
  cases c <;> rfl

lemma idxOf_digit {value : Nat} (h : value < c.radix) : c.alphabet.idxOf (c.digit value) = value := by
  have hall : ∀ value < c.radix, c.alphabet.idxOf (c.digit value) = value := by cases c <;> decide
  exact hall value h

lemma digit_mem_alphabet {value : Nat} (h : value < c.radix) : c.digit value ∈ c.alphabet := by
  rw [← List.idxOf_lt_length_iff, c.idxOf_digit h, length_alphabet]
  exact h

@[simp] lemma valueOf_nil : c.valueOf [] = 0 :=
  rfl

lemma valueOf_concat (digits : List Char) (x : Char) :
    c.valueOf (digits ++ [x]) = c.valueOf digits * c.radix + c.alphabet.idxOf x := by
  simp [valueOf, List.foldl_append]

/-- Zeros in front do not change the value. -/
lemma valueOf_zeros_append (n : Nat) (digits : List Char) :
    c.valueOf (List.replicate n '0' ++ digits) = c.valueOf digits := by
  have hzero : c.alphabet.idxOf '0' = 0 := by cases c <;> rfl
  induction n with
  | zero => rfl
  | succ n ih =>
    rw [← ih]
    simp only [valueOf, List.replicate_succ, List.cons_append, List.foldl_cons, hzero, Nat.zero_mul,
      Nat.add_zero]

end Conversion

namespace Layout

variable (layout : Layout)

/-! ### Magnitudes -/

lemma digits_of_lt {n : Nat} (h : n < layout.conversion.radix) :
    layout.digits n = [layout.conversion.digit n] := by
  unfold digits Conversion.digit
  rw [Nat.toDigits_of_lt_base h]
  split_ifs <;> rfl

/-- Without its last digit, a numeral is that of the number divided by the base. -/
lemma digits_of_le {n : Nat} (h : layout.conversion.radix ≤ n) :
    layout.digits n = layout.digits (n / layout.conversion.radix)
      ++ [layout.conversion.digit (n % layout.conversion.radix)] := by
  unfold digits Conversion.digit
  rw [Nat.toDigits_of_base_le layout.conversion.one_lt_radix h]
  split_ifs
  · exact List.map_append
  · rfl

/-- What holds of the digits below the base, and goes on by one digit, holds of all numerals. -/
lemma digits_induction {motive : Nat → List Char → Prop}
    (one : ∀ n < layout.conversion.radix, motive n [layout.conversion.digit n])
    (more : ∀ n, layout.conversion.radix ≤ n →
      motive (n / layout.conversion.radix) (layout.digits (n / layout.conversion.radix)) →
      motive n (layout.digits (n / layout.conversion.radix)
        ++ [layout.conversion.digit (n % layout.conversion.radix)])) (n : Nat) :
    motive n (layout.digits n) := by
  induction n using Nat.strongRecOn with
  | ind n ih =>
    rcases Nat.lt_or_ge n layout.conversion.radix with hlt | hge
    · rw [layout.digits_of_lt hlt]
      exact one n hlt
    · have hpos : 0 < n := Nat.lt_of_lt_of_le (Nat.zero_lt_of_lt layout.conversion.one_lt_radix) hge
      rw [layout.digits_of_le hge]
      exact more n hge (ih _ (Nat.div_lt_self hpos layout.conversion.one_lt_radix))

lemma mem_alphabet_of_mem_digits (n : Nat) :
    ∀ x ∈ layout.digits n, x ∈ layout.conversion.alphabet := by
  refine layout.digits_induction
    (motive := fun _ digits => ∀ x ∈ digits, x ∈ layout.conversion.alphabet)
    (fun n hlt => ?_) (fun n _ ih => ?_) n
  · simpa using layout.conversion.digit_mem_alphabet hlt
  · intro x hx
    rcases List.mem_append.mp hx with hfront | hlast
    · exact ih x hfront
    · rw [List.mem_singleton.mp hlast]
      exact layout.conversion.digit_mem_alphabet
        (Nat.mod_lt n (Nat.zero_lt_of_lt layout.conversion.one_lt_radix))

/-- The digits of a magnitude write it. -/
lemma valueOf_digits (n : Nat) : layout.conversion.valueOf (layout.digits n) = n := by
  refine layout.digits_induction (motive := fun n digits => layout.conversion.valueOf digits = n)
    (fun n hlt => ?_) (fun n _ ih => ?_) n
  · have hone := layout.conversion.valueOf_concat [] (layout.conversion.digit n)
    rwa [List.nil_append, Conversion.valueOf_nil, Nat.zero_mul, Nat.zero_add,
      layout.conversion.idxOf_digit hlt] at hone
  · have hmod := Nat.mod_lt n (Nat.zero_lt_of_lt layout.conversion.one_lt_radix)
    rw [Conversion.valueOf_concat, ih, layout.conversion.idxOf_digit hmod, Nat.mul_comm,
      Nat.div_add_mod]

/-- There are no more digits than the base needs, and one for zero. -/
lemma length_digits (n : Nat) :
    (layout.digits n).length = Nat.log layout.conversion.radix n + 1 := by
  refine layout.digits_induction
    (motive := fun n digits => digits.length = Nat.log layout.conversion.radix n + 1)
    (fun n hlt => ?_) (fun n hge ih => ?_) n
  · rw [Nat.log_of_lt hlt, List.length_singleton]
  · rw [List.length_append, ih, List.length_singleton,
      Nat.log_of_one_lt_of_le layout.conversion.one_lt_radix hge]

/-! ### Integers -/

lemma mem_alphabet_of_mem_body (v : Int) :
    ∀ x ∈ (layout.integer v).body, x ∈ layout.conversion.alphabet := by
  intro x hx
  unfold integer at hx
  dsimp only at hx
  split_ifs at hx
  · cases hx
  · rcases List.mem_append.mp hx with hzero | hdigit
    · rw [List.eq_of_mem_replicate hzero]
      exact layout.conversion.zero_mem_alphabet
    · exact layout.mem_alphabet_of_mem_digits v.natAbs x hdigit

/-- The base marker of an integer. Zero has none. -/
def integerMarker (v : Int) : List Char :=
  if layout.flags.alternate ∧ v ≠ 0 then layout.conversion.marker else []

lemma baseMarker_eq :
    layout.baseMarker = if layout.flags.alternate then layout.conversion.marker else [] := by
  unfold baseMarker
  cases layout.conversion <;> rfl

lemma integerMarker_zero : layout.integerMarker 0 = [] :=
  if_neg fun h => h.2 rfl

lemma integerMarker_of_ne {v : Int} (h : v ≠ 0) : layout.integerMarker v = layout.baseMarker := by
  rw [baseMarker_eq, integerMarker]
  exact if_congr (and_iff_left h) rfl rfl

lemma lead_integer (v : Int) :
    (layout.integer v).lead = layout.integerSign v ++ layout.integerMarker v := by
  unfold integer
  dsimp only
  split_ifs with hzero
  · rw [hzero, integerMarker_zero]
  · rw [layout.integerMarker_of_ne hzero]

/-- Neither the base marker of an integer nor digits look like a sign or a space. -/
lemma not_mem_unsigned (v : Int) {digits : List Char}
    (hdigits : ∀ x ∈ digits, x ∈ layout.conversion.alphabet) {x : Char}
    (hx : x = '-' ∨ x = '+' ∨ x = ' ') : x ∉ layout.integerMarker v ++ digits := by
  have hmarker : x ∉ layout.integerMarker v := by
    unfold integerMarker
    rcases hx with rfl | rfl | rfl <;> cases layout.conversion <;> split_ifs <;> decide
  exact List.not_mem_append hmarker fun hmem =>
    layout.conversion.not_mem_alphabet hx (hdigits x hmem)

end Layout

end TypedFormat
