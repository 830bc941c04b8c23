import Mathlib
import TypedFormat.Proofs.Number.Increment

/-!
# One unit more than a numeral

A `Numeral` is any text of digits with at most one point among them, behind the first digit at the
earliest. Adding one unit in the last place gives a numeral with as many places and one unit more,
however many zeros it begins with and wherever the carry ends (`Numeral.incrementLast_text`). It is
longer only if all of its digits were nines.
-/

namespace TypedFormat

/-! ### Digits and the number that they write -/

lemma toNat_sub_lt_of_isDigit {c : Char} (hc : c.isDigit = true) : c.toNat - '0'.toNat < 10 := by
  have hhigh : c.toNat ≤ 57 := (Char.isDigit_iff_toNat.mp hc).2
  have hzero : '0'.toNat = 48 := rfl
  omega

lemma digitChar_toNat_sub {c : Char} (hc : c.isDigit = true) :
    Nat.digitChar (c.toNat - '0'.toNat) = c := by
  have hlow : 48 ≤ c.toNat := (Char.isDigit_iff_toNat.mp hc).1
  have hzero : '0'.toNat = 48 := rfl
  apply Char.toNat_inj.mp
  rw [Nat.toNat_digitChar_of_lt_ten (toNat_sub_lt_of_isDigit hc)]
  omega

/-- Digits are the last ones of the number that they write. -/
lemma lastDigits_ofDigitChars {digits : List Char} (h : ∀ c ∈ digits, c.isDigit = true) :
    lastDigits digits.length (Nat.ofDigitChars 10 digits 0) = digits := by
  induction digits using List.reverseRecOn with
  | nil => rfl
  | append_singleton digits c ih =>
    simp only [List.mem_append, List.mem_singleton, or_imp, forall_and, forall_eq] at h
    have hlt := toNat_sub_lt_of_isDigit h.2
    have hdigit := digitChar_toNat_sub h.2
    rw [Nat.ofDigitChars_append, Nat.ofDigitChars_cons, Nat.ofDigitChars_nil]
    generalize c.toNat - '0'.toNat = d at hlt hdigit
    have hdiv : (10 * Nat.ofDigitChars 10 digits 0 + d) / 10 = Nat.ofDigitChars 10 digits 0 := by omega
    have hmod : (10 * Nat.ofDigitChars 10 digits 0 + d) % 10 = d := by omega
    rw [List.length_append, List.length_singleton, lastDigits, hdiv, hmod, hdigit, ih h.1]

/-- What digits in front of the last ones count for. -/
lemma ofDigitChars_append_lastDigits (front : List Char) (places n : Nat) :
    Nat.ofDigitChars 10 (front ++ lastDigits places n) 0
      = tenTo places * Nat.ofDigitChars 10 front 0 + n % tenTo places := by
  rw [Nat.ofDigitChars_append, Nat.ofDigitChars_eq_ofDigitChars_zero, ofDigitChars_lastDigits,
    length_lastDigits]
  rfl

/-- The last digits are all nines just if those of the next number are all zeros. -/
lemma forall_lastDigits_eq_nine_iff {places n : Nat} :
    (∀ c ∈ lastDigits places n, c = '9') ↔ tenTo places ∣ n + 1 := by
  induction places generalizing n with
  | zero => simp [lastDigits]
  | succ places ih =>
    have hlast : Nat.digitChar (n % 10) = '9' ↔ n % 10 = 9 := by
      have hlt : n % 10 < 10 := Nat.mod_lt n (by decide)
      generalize n % 10 = d at hlt
      interval_cases d <;> decide
    simp only [lastDigits, List.mem_append, List.mem_singleton, or_imp, forall_and, forall_eq, ih, hlast]
    constructor
    · rintro ⟨hdvd, hnine⟩
      have hnext : n + 1 = (n / 10 + 1) * 10 := by omega
      rw [hnext, tenTo_succ]
      exact Nat.mul_dvd_mul_right hdvd 10
    · intro hdvd
      have hten : 10 ∣ n + 1 := dvd_of_mul_left_dvd hdvd
      have hnext : n + 1 = (n / 10 + 1) * 10 := by omega
      rw [hnext, tenTo_succ] at hdvd
      exact ⟨Nat.dvd_of_mul_dvd_mul_right (by decide) hdvd, by omega⟩

/-! ### The carry through digits -/

section Digits

variable {digits : List Char} (h : ∀ c ∈ digits, c.isDigit = true)

include h

lemma ofDigitChars_lt : Nat.ofDigitChars 10 digits 0 < tenTo digits.length := by
  have hvalue := ofDigitChars_lastDigits digits.length (Nat.ofDigitChars 10 digits 0)
  rw [lastDigits_ofDigitChars h] at hvalue
  rw [hvalue]
  exact Nat.mod_lt _ (tenTo_pos _)

lemma forall_eq_nine_iff_dvd :
    (∀ c ∈ digits, c = '9') ↔ tenTo digits.length ∣ Nat.ofDigitChars 10 digits 0 + 1 := by
  conv_lhs => rw [← lastDigits_ofDigitChars h]
  exact forall_lastDigits_eq_nine_iff

/-- Nines, and no other digits, write a number that is one short of a power of ten. -/
lemma forall_eq_nine_iff :
    (∀ c ∈ digits, c = '9') ↔ Nat.ofDigitChars 10 digits 0 + 1 = tenTo digits.length := by
  rw [forall_eq_nine_iff_dvd h]
  constructor
  · intro hdvd
    exact le_antisymm (ofDigitChars_lt h) (Nat.le_of_dvd (Nat.succ_pos _) hdvd)
  · intro heq
    rw [heq]

/-- The carry leaves as many digits of the next number, and goes on to what stands before them just if
all of them were nines. -/
lemma incrementBackward_digits (before : List Char) :
    incrementBackward (digits.reverse ++ before)
      = (lastDigits digits.length (Nat.ofDigitChars 10 digits 0 + 1)).reverse
        ++ if ∀ c ∈ digits, c = '9' then incrementBackward before else before := by
  conv_lhs => rw [← lastDigits_ofDigitChars h]
  rw [incrementBackward_lastDigits]
  simp only [forall_eq_nine_iff_dvd h]

/-- In front of nines the carry leaves a one. -/
lemma incrementLast_digits :
    incrementLast digits = (if ∀ c ∈ digits, c = '9' then ['1'] else [])
      ++ lastDigits digits.length (Nat.ofDigitChars 10 digits 0 + 1) := by
  have hend : incrementBackward [] = ['1'] := rfl
  rw [incrementLast, ← List.append_nil digits.reverse, incrementBackward_digits h, hend,
    List.reverse_append, List.reverse_reverse]
  split_ifs <;> rfl

lemma isDigit_of_mem_incrementLast : ∀ c ∈ incrementLast digits, c.isDigit = true := by
  intro c hc
  rw [incrementLast_digits h, List.mem_append] at hc
  rcases hc with hone | hrest
  · split_ifs at hone
    · rw [List.mem_singleton.mp hone]
      rfl
    · exact absurd hone List.not_mem_nil
  · exact isDigit_of_mem_lastDigits c hrest

lemma length_incrementLast :
    (incrementLast digits).length = digits.length + if ∀ c ∈ digits, c = '9' then 1 else 0 := by
  rw [incrementLast_digits h, List.length_append, length_lastDigits, Nat.add_comm]
  split_ifs <;> rfl

lemma ofDigitChars_incrementLast :
    Nat.ofDigitChars 10 (incrementLast digits) 0 = Nat.ofDigitChars 10 digits 0 + 1 := by
  rw [incrementLast_digits h, ofDigitChars_append_lastDigits]
  have hle := ofDigitChars_lt h
  split_ifs with hnines
  · rw [(forall_eq_nine_iff h).mp hnines, Nat.mod_self]
    exact Nat.mul_one _
  · rw [forall_eq_nine_iff h] at hnines
    rw [Nat.mod_eq_of_lt (by omega)]
    exact Nat.zero_add _

end Digits

/-! ### Numerals -/

/-- A numeral in base ten: digits, and behind a point, if there is one, more digits. -/
structure Numeral where
  whole : List Char
  /-- The digits behind the point, if there is one. -/
  fraction : Option (List Char)
  whole_ne_nil : whole ≠ []
  isDigit_whole : ∀ c ∈ whole, c.isDigit = true
  isDigit_fraction : ∀ c ∈ fraction.getD [], c.isDigit = true

/-- The number that a text of digits writes when its points are left out. -/
def unitsOf (text : List Char) : Nat :=
  Nat.ofDigitChars 10 (text.filter (· ≠ '.')) 0

namespace Numeral

variable (n : Numeral)

def text : List Char :=
  n.whole ++ n.fraction.elim [] ('.' :: ·)

/-- All digits, in front of the point and behind it. -/
def digits : List Char :=
  n.whole ++ n.fraction.getD []

lemma filter_ne_point {digits : List Char} (h : ∀ c ∈ digits, c.isDigit = true) :
    digits.filter (· ≠ '.') = digits := by
  refine List.filter_eq_self.mpr fun c hc => ?_
  have hdigit := h c hc
  by_contra hpoint
  obtain rfl : c = '.' := by simpa using hpoint
  exact absurd hdigit (by decide)

lemma unitsOf_text : unitsOf n.text = Nat.ofDigitChars 10 n.digits 0 := by
  rw [unitsOf, text, digits, List.filter_append, filter_ne_point n.isDigit_whole]
  cases hfraction : n.fraction with
  | none => rfl
  | some fraction =>
    have hdigits := n.isDigit_fraction
    rw [hfraction] at hdigits
    have hpoint : ('.' :: fraction).filter (· ≠ '.') = fraction := filter_ne_point hdigits
    rw [Option.elim_some, hpoint]
    rfl

/-- Numerals are the texts of digits and at most one point that begin with a digit. -/
lemma exists_text_eq_iff {text : List Char} : (∃ n : Numeral, n.text = text) ↔
    (∀ c ∈ text, c.isDigit = true ∨ c = '.') ∧ text.count '.' ≤ 1 ∧
      ∃ c, text.head? = some c ∧ c.isDigit = true := by
  have hpoint : ∀ {digits : List Char}, (∀ c ∈ digits, c.isDigit = true) → '.' ∉ digits :=
    fun hdigits hmem => absurd (hdigits _ hmem) (by decide)
  constructor
  · rintro ⟨⟨whole, fraction, hne, hwhole, hfraction⟩, rfl⟩
    obtain ⟨c, rest, rfl⟩ := List.exists_cons_of_ne_nil hne
    refine ⟨?_, ?_, c, rfl, hwhole c List.mem_cons_self⟩
    · intro d hd
      rcases List.mem_append.mp hd with hd | hd
      · exact .inl (hwhole d hd)
      · cases fraction with
        | none => exact absurd hd List.not_mem_nil
        | some digits =>
          rcases List.mem_cons.mp hd with rfl | hd
          · exact .inr rfl
          · exact .inl (hfraction d hd)
    · rw [text, List.count_append, List.count_eq_zero_of_not_mem (hpoint hwhole)]
      cases fraction with
      | none => exact Nat.zero_le 1
      | some digits =>
        have hdigits : '.' ∉ digits := hpoint hfraction
        rw [Option.elim_some, List.count_cons_self, List.count_eq_zero_of_not_mem hdigits]
  · rintro ⟨hchars, hcount, c, hhead, hc⟩
    by_cases hmem : '.' ∈ text
    · obtain ⟨whole, fraction, rfl, hwhole⟩ := List.eq_append_cons_of_mem hmem
      have hfraction : '.' ∉ fraction := by
        rw [List.count_append, List.count_cons_self] at hcount
        exact List.count_eq_zero.mp (by omega)
      have hne : whole ≠ [] := by
        rintro rfl
        obtain rfl : '.' = c := by simpa using hhead
        exact absurd hc (by decide)
      refine ⟨⟨whole, some fraction, hne, fun d hd => ?_, fun d hd => ?_⟩, rfl⟩
      · exact (hchars d (List.mem_append_left _ hd)).resolve_right fun heq => hwhole (heq ▸ hd)
      · exact (hchars d (List.mem_append_right _ (List.mem_cons_of_mem _ hd))).resolve_right
          fun heq => hfraction (heq ▸ hd)
    · have hne : text ≠ [] := by
        rintro rfl
        cases hhead
      refine ⟨⟨text, none, hne, fun d hd => ?_, fun _ hd => absurd hd List.not_mem_nil⟩, ?_⟩
      · exact (hchars d hd).resolve_right fun heq => hmem (heq ▸ hd)
      · exact List.append_nil text

/-- The numeral of one unit more. Of the digits in front of the point something changes only if those
behind it are all nines. -/
def next : Numeral where
  whole := if ∀ c ∈ n.fraction.getD [], c = '9' then incrementLast n.whole else n.whole
  fraction := n.fraction.map fun digits =>
    lastDigits digits.length (Nat.ofDigitChars 10 digits 0 + 1)
  whole_ne_nil := by
    split_ifs
    · rw [← List.length_pos_iff, length_incrementLast n.isDigit_whole]
      exact Nat.add_pos_left (List.length_pos_iff.mpr n.whole_ne_nil) _
    · exact n.whole_ne_nil
  isDigit_whole := by
    split_ifs
    · exact isDigit_of_mem_incrementLast n.isDigit_whole
    · exact n.isDigit_whole
  isDigit_fraction := by
    cases n.fraction with
    | none => simp
    | some digits => exact isDigit_of_mem_lastDigits

lemma whole_next : n.next.whole
    = if ∀ c ∈ n.fraction.getD [], c = '9' then incrementLast n.whole else n.whole := by
  dsimp only [next]

lemma fraction_next : n.next.fraction = n.fraction.map fun digits =>
    lastDigits digits.length (Nat.ofDigitChars 10 digits 0 + 1) := rfl

lemma text_next : n.next.text = incrementLast n.text := by
  have hpoint : ∀ rest, incrementBackward ('.' :: rest) = '.' :: incrementBackward rest :=
    fun rest => rfl
  have hdigits := n.isDigit_fraction
  rw [text, text, whole_next, fraction_next]
  cases hfraction : n.fraction with
  | none => simp
  | some digits =>
    rw [hfraction] at hdigits
    simp only [Option.getD_some, Option.map_some, Option.elim_some] at hdigits ⊢
    unfold incrementLast
    rw [← List.reverse_inj, List.reverse_reverse]
    simp only [List.reverse_append, List.reverse_cons, List.append_assoc, List.singleton_append]
    rw [incrementBackward_digits hdigits, hpoint]
    split_ifs
    · rw [List.reverse_reverse]
    · rfl

lemma digits_next :
    n.next.digits = (if ∀ c ∈ n.fraction.getD [], c = '9' then incrementLast n.whole else n.whole)
      ++ lastDigits (n.fraction.getD []).length (Nat.ofDigitChars 10 (n.fraction.getD []) 0 + 1) := by
  rw [digits, whole_next, fraction_next]
  cases n.fraction with
  | none => rfl
  | some digits => rfl

lemma ofDigitChars_digits_next :
    Nat.ofDigitChars 10 n.next.digits 0 = Nat.ofDigitChars 10 n.digits 0 + 1 := by
  have hlt := ofDigitChars_lt n.isDigit_fraction
  have hdigits : Nat.ofDigitChars 10 n.digits 0
      = tenTo (n.fraction.getD []).length * Nat.ofDigitChars 10 n.whole 0
        + Nat.ofDigitChars 10 (n.fraction.getD []) 0 := by
    conv_lhs => rw [digits, ← lastDigits_ofDigitChars n.isDigit_fraction]
    rw [ofDigitChars_append_lastDigits, Nat.mod_eq_of_lt hlt]
  rw [hdigits, digits_next, ofDigitChars_append_lastDigits]
  split_ifs with hnines
  · have hpower := (forall_eq_nine_iff n.isDigit_fraction).mp hnines
    rw [hpower, Nat.mod_self, ofDigitChars_incrementLast n.isDigit_whole, Nat.add_assoc, hpower]
    rfl
  · rw [forall_eq_nine_iff n.isDigit_fraction] at hnines
    rw [Nat.mod_eq_of_lt (by omega), Nat.add_assoc]

lemma forall_digits_iff : (∀ c ∈ n.digits, c = '9')
    ↔ (∀ c ∈ n.whole, c = '9') ∧ ∀ c ∈ n.fraction.getD [], c = '9' := by
  simp only [digits, List.mem_append, or_imp, forall_and]

lemma length_text_next :
    n.next.text.length = n.text.length + if ∀ c ∈ n.digits, c = '9' then 1 else 0 := by
  have hwhole : n.next.whole.length
      = n.whole.length + if ∀ c ∈ n.digits, c = '9' then 1 else 0 := by
    simp only [whole_next, forall_digits_iff]
    by_cases hnines : ∀ c ∈ n.fraction.getD [], c = '9'
    · rw [if_pos hnines, length_incrementLast n.isDigit_whole]
      simp only [and_iff_left hnines]
    · simp only [hnines, if_false, and_false, Nat.add_zero]
  rw [text, text, List.length_append, List.length_append, hwhole, fraction_next]
  cases n.fraction with
  | none => simp
  | some digits => simp; omega

lemma head?_text_next (hnines : ∀ c ∈ n.digits, c = '9') : n.next.text.head? = some '1' := by
  obtain ⟨hwhole, hfraction⟩ := n.forall_digits_iff.mp hnines
  rw [text, whole_next, if_pos hfraction, incrementLast_digits n.isDigit_whole, if_pos hwhole]
  rfl

/-- A numeral whose last place gets one unit more is a numeral with a point if there was one, with as
many places, and of one unit more, if the point is left out. It is longer by one just if all digits
were nines, and then begins with a one. -/
theorem incrementLast_text :
    ∃ next : Numeral, next.text = incrementLast n.text ∧
      next.fraction.map List.length = n.fraction.map List.length ∧
      unitsOf next.text = unitsOf n.text + 1 ∧
      (next.text.length = n.text.length + if ∀ c ∈ n.digits, c = '9' then 1 else 0) ∧
      ((∀ c ∈ n.digits, c = '9') → next.text.head? = some '1') := by
  refine ⟨n.next, n.text_next, ?_, ?_, n.length_text_next, n.head?_text_next⟩
  · rw [fraction_next, Option.map_map]
    congr 1
    funext digits
    exact length_lastDigits _ _
  · rw [unitsOf_text, unitsOf_text, ofDigitChars_digits_next]

example : incrementLast "9.99".toList = "10.00".toList := by decide

end Numeral

end TypedFormat
