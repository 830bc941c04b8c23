import Mathlib
import TypedFormat.Number.FixedPoint

/-!
# Numerals and the numbers they write

The digits of a number read back as the number, also with zeros in front, and also if a point is put
among them and left out again.
-/

namespace TypedFormat

/-! ### Runs -/

section Runs

variable {α : Type} {p : α → Bool} {run rest : List α} (hrun : ∀ a ∈ run, p a = true)
  (hrest : ∀ a, rest.head? = some a → p a = false)

include hrun hrest

/-- A run ends in front of what is not of its kind. -/
lemma takeWhile_run : (run ++ rest).takeWhile p = run := by
  rw [List.takeWhile_append_of_pos hrun]
  cases rest with
  | nil => exact List.append_nil run
  | cons a rest => simp [hrest a rfl]

lemma dropWhile_run : (run ++ rest).dropWhile p = rest := by
  rw [List.dropWhile_append_of_pos hrun]
  cases rest with
  | nil => rfl
  | cons a rest => simp [hrest a rfl]

end Runs

/-- What does not contain an item is a run of others. -/
lemma decide_ne_of_not_mem {α : Type} [DecidableEq α] {a : α} {items : List α} (h : a ∉ items) :
    ∀ b ∈ items, decide (b ≠ a) = true :=
  fun _ hb => decide_eq_true fun heq => h (heq ▸ hb)

/-! ### Digits -/

lemma isDigit_of_mem_toDigits {n : Nat} : ∀ c ∈ Nat.toDigits 10 n, c.isDigit = true :=
  fun _ hc => Nat.isDigit_of_mem_toDigits (by decide) (by decide) hc

/-- No number but zero begins with a zero. -/
lemma head?_toDigits_ne {n : Nat} (hn : n ≠ 0) : (Nat.toDigits 10 n).head? ≠ some '0' := by
  induction n using Nat.strongRecOn with
  | ind n ih =>
    by_cases hlt : n < 10
    · rw [Nat.toDigits_of_lt_base hlt]
      simpa using hn
    · have hne : n / 10 ≠ 0 := by omega
      have hhead := ih (n / 10) (by omega) hne
      rw [Nat.toDigits_of_base_le (by decide) (by omega), List.head?_append]
      obtain ⟨c, cs, hc⟩ := List.exists_cons_of_ne_nil (Nat.toDigits_ne_nil (n := n / 10) (b := 10))
      rw [hc] at hhead ⊢
      exact hhead

/-! ### Zeros in front -/

lemma paddedDigits_ne_nil (least n : Nat) : paddedDigits least n ≠ [] :=
  List.append_ne_nil_of_right_ne_nil _ Nat.toDigits_ne_nil

lemma isDigit_of_mem_paddedDigits {least n : Nat} : ∀ c ∈ paddedDigits least n, c.isDigit = true := by
  intro c hc
  rcases List.mem_append.mp hc with hzero | hdigit
  · rw [List.eq_of_mem_replicate hzero]
    rfl
  · exact isDigit_of_mem_toDigits c hdigit

lemma ofDigitChars_paddedDigits (least n init : Nat) :
    Nat.ofDigitChars 10 (paddedDigits least n) init
      = 10 ^ (paddedDigits least n).length * init + n := by
  rw [Nat.ofDigitChars_eq_ofDigitChars_zero]
  congr 1
  rw [paddedDigits, Nat.ofDigitChars_append, Nat.ofDigitChars_replicate_zero, Nat.mul_zero,
    Nat.ofDigitChars_ten_toDigits]

lemma length_paddedDigits {least n : Nat} (hpos : 0 < least) (hn : n < tenTo least) :
    (paddedDigits least n).length = least := by
  have hlength : (Nat.toDigits 10 n).length ≤ least :=
    (Nat.length_toDigits_le_iff (by decide) hpos).mpr hn
  rw [paddedDigits, List.length_append, List.length_replicate]
  omega

lemma paddedDigits_inj {least m n : Nat} : paddedDigits least m = paddedDigits least n ↔ m = n := by
  constructor
  · intro h
    have hread := congrArg (Nat.ofDigitChars 10 · 0) h
    simpa [ofDigitChars_paddedDigits] using hread
  · rintro rfl
    rfl

/-! ### Numerals with a point -/

/-- The digits of a numeral with places, without the point, write the whole number of units. -/
lemma ofDigitChars_placed (units : Nat) {places : Nat} (hpos : 0 < places) :
    Nat.ofDigitChars 10 (Nat.toDigits 10 (units / tenTo places)
      ++ paddedDigits places (units % tenTo places)) 0 = units := by
  rw [Nat.ofDigitChars_append, Nat.ofDigitChars_ten_toDigits, ofDigitChars_paddedDigits,
    length_paddedDigits hpos (Nat.mod_lt _ (tenTo_pos _))]
  exact Nat.div_add_mod _ _

end TypedFormat
