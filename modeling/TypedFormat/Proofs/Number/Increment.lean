import Mathlib
import TypedFormat.Proofs.Number.Numerals

/-!
# One unit in the last place

Adding one unit in the last place of a numeral gives the numeral of one unit more, with as many places
(`incrementLast_placed`). The carry goes through nines from the last digit on and passes the point. To
follow it, the places are taken apart digit by digit, as `lastDigits`.
-/

namespace TypedFormat

/-! ### Digits -/

lemma isDigit_digitChar {d : Nat} (hd : d < 10) : (Nat.digitChar d).isDigit = true := by
  interval_cases d <;> rfl

lemma toNat_digitChar {d : Nat} (hd : d < 10) : (Nat.digitChar d).toNat - '0'.toNat = d := by
  interval_cases d <;> rfl

/-- A digit other than nine ends the carry. -/
lemma incrementBackward_digitChar {d : Nat} (hd : d < 9) (rest : List Char) :
    incrementBackward (Nat.digitChar d :: rest) = Nat.digitChar (d + 1) :: rest := by
  interval_cases d <;> rfl

/-! ### The last digits of a number -/

/-- The last `places` digits of a number. -/
def lastDigits : Nat → Nat → List Char
  | 0,          _ => []
  | places + 1, n => lastDigits places (n / 10) ++ [Nat.digitChar (n % 10)]

@[simp] lemma length_lastDigits (places n : Nat) : (lastDigits places n).length = places := by
  induction places generalizing n with
  | zero => rfl
  | succ places ih => simp [lastDigits, ih]

lemma isDigit_of_mem_lastDigits {places n : Nat} : ∀ c ∈ lastDigits places n, c.isDigit = true := by
  induction places generalizing n with
  | zero => simp [lastDigits]
  | succ places ih =>
    intro c hc
    rcases List.mem_append.mp hc with hfront | hlast
    · exact ih c hfront
    · rw [List.mem_singleton.mp hlast]
      exact isDigit_digitChar (Nat.mod_lt n (by decide))

/-- The last digits write the remainder. -/
lemma ofDigitChars_lastDigits (places n : Nat) :
    Nat.ofDigitChars 10 (lastDigits places n) 0 = n % tenTo places := by
  induction places generalizing n with
  | zero => simp [lastDigits, Nat.mod_one]
  | succ places ih =>
    have hdigit := toNat_digitChar (Nat.mod_lt n (show 10 > 0 by decide))
    rw [lastDigits, Nat.ofDigitChars_append, ih, Nat.ofDigitChars_cons, Nat.ofDigitChars_nil, hdigit,
      tenTo_succ, Nat.mul_comm (tenTo places), Nat.mod_mul, Nat.add_comm]

/-- A numeral with one digit more in front of its last one. -/
lemma paddedDigits_succ {least : Nat} (hpos : 0 < least) (n : Nat) :
    paddedDigits (least + 1) n = paddedDigits least (n / 10) ++ [Nat.digitChar (n % 10)] := by
  unfold paddedDigits
  by_cases hn : n < 10
  · have hzero : n / 10 = 0 := Nat.div_eq_of_lt hn
    have hzeros : List.replicate (least - 1) '0' ++ ['0'] = List.replicate least '0' := by
      rw [← List.replicate_succ', Nat.sub_add_cancel hpos]
    rw [hzero, Nat.mod_eq_of_lt hn, Nat.toDigits_of_lt_base hn, Nat.toDigits_zero]
    simp [← hzeros]
  · rw [Nat.toDigits_of_base_le (by decide) (Nat.le_of_not_lt hn)]
    simp

lemma paddedDigits_mod {places : Nat} (hpos : 0 < places) (n : Nat) :
    paddedDigits places (n % tenTo places) = lastDigits places n := by
  induction places, hpos using Nat.le_induction generalizing n with
  | base =>
    have hone : n % tenTo 1 < 10 := Nat.mod_lt n (by decide)
    rw [paddedDigits, Nat.toDigits_of_lt_base hone]
    rfl
  | succ places hpos ih =>
    have hdiv : n % tenTo (places + 1) / 10 = n / 10 % tenTo places := by
      rw [tenTo_succ, Nat.mul_comm, Nat.mod_mul_right_div_self]
    have hmod : n % tenTo (places + 1) % 10 = n % 10 := by
      rw [tenTo_succ, Nat.mod_mul_left_mod]
    rw [paddedDigits_succ hpos, hdiv, hmod, ih, lastDigits]

/-- A numeral by its whole part and the last digits of its units. -/
lemma placed_eq (places units : Nat) :
    placed places units = Nat.toDigits 10 (units / tenTo places)
      ++ if places = 0 then [] else '.' :: lastDigits places units := by
  unfold placed
  dsimp only
  split_ifs with hplaces
  · exact (List.append_nil _).symm
  · rw [paddedDigits_mod (Nat.pos_of_ne_zero hplaces)]

/-! ### The carry -/

/-- The carry leaves the last digits of the next number, and goes on to what stands before them just if
all of them were nines. -/
lemma incrementBackward_lastDigits (places n : Nat) (before : List Char) :
    incrementBackward ((lastDigits places n).reverse ++ before)
      = (lastDigits places (n + 1)).reverse
        ++ if tenTo places ∣ n + 1 then incrementBackward before else before := by
  induction places generalizing n with
  | zero => simp [lastDigits]
  | succ places ih =>
    simp only [lastDigits, List.reverse_append, List.reverse_singleton, List.cons_append,
      List.nil_append]
    by_cases hnine : n % 10 = 9
    · -- The carry goes on, and the digits in front are those of the next tenth.
      have hnext : n + 1 = (n / 10 + 1) * 10 := by omega
      have hdiv : (n + 1) / 10 = n / 10 + 1 := by omega
      have hmod : (n + 1) % 10 = 0 := by omega
      have hdvd : tenTo (places + 1) ∣ n + 1 ↔ tenTo places ∣ n / 10 + 1 := by
        rw [hnext, tenTo_succ]
        exact Nat.mul_dvd_mul_iff_right (by decide)
      have hstep : ∀ rest, incrementBackward ('9' :: rest) = '0' :: incrementBackward rest :=
        fun rest => rfl
      rw [hnine, hdiv, hmod]
      show incrementBackward ('9' :: _) = '0' :: _
      rw [hstep, ih]
      simp only [hdvd]
    · have hlt : n % 10 < 9 := by omega
      have hdiv : (n + 1) / 10 = n / 10 := by omega
      have hmod : (n + 1) % 10 = n % 10 + 1 := by omega
      have hdvd : ¬ tenTo (places + 1) ∣ n + 1 := by
        intro h
        rw [tenTo_succ] at h
        have hten : 10 ∣ n + 1 := dvd_of_mul_left_dvd h
        omega
      rw [incrementBackward_digitChar hlt, hdiv, hmod, if_neg hdvd]

/-- In front of the whole part the carry leaves a one. -/
lemma incrementBackward_toDigits (n : Nat) :
    incrementBackward (Nat.toDigits 10 n).reverse = (Nat.toDigits 10 (n + 1)).reverse := by
  induction n using Nat.strongRecOn with
  | ind n ih =>
    by_cases hlt : n < 9
    · rw [Nat.toDigits_of_lt_base (by omega), Nat.toDigits_of_lt_base (by omega)]
      exact incrementBackward_digitChar hlt []
    · by_cases hnine : n = 9
      · subst hnine
        rfl
      · have hten : 10 ≤ n := by omega
        have hsplit := incrementBackward_lastDigits 1 n (Nat.toDigits 10 (n / 10)).reverse
        rw [Nat.toDigits_of_base_le (by decide) hten,
          Nat.toDigits_of_base_le (n := n + 1) (by decide) (by omega), List.reverse_append,
          List.reverse_append]
        refine hsplit.trans ?_
        congr 1
        have hdiv : (n + 1) / 10 = n / 10 + if tenTo 1 ∣ n + 1 then 1 else 0 := Nat.succ_div
        split_ifs with hdvd
        · rw [ih (n / 10) (by omega), hdiv, if_pos hdvd]
        · rw [hdiv, if_neg hdvd, Nat.add_zero]

/-- One unit more in the last place. -/
lemma incrementLast_placed (places units : Nat) :
    incrementLast (placed places units) = placed places (units + 1) := by
  have hdiv : (units + 1) / tenTo places
      = units / tenTo places + if tenTo places ∣ units + 1 then 1 else 0 := Nat.succ_div
  rw [incrementLast, placed_eq, placed_eq, hdiv, ← List.reverse_inj, List.reverse_reverse]
  by_cases hplaces : places = 0
  · subst hplaces
    simp only [if_true, List.append_nil, tenTo_zero, Nat.div_one, Nat.one_dvd]
    exact incrementBackward_toDigits units
  · have hpoint : ∀ rest, incrementBackward ('.' :: rest) = '.' :: incrementBackward rest :=
      fun rest => rfl
    simp only [if_neg hplaces, List.reverse_append, List.reverse_cons, List.append_assoc,
      List.singleton_append]
    rw [incrementBackward_lastDigits, hpoint, incrementBackward_toDigits]
    split_ifs <;> rfl

end TypedFormat
