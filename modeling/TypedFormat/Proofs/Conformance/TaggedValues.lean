import Mathlib
import TypedFormat.Conformance.CaseValue
import TypedFormat.Proofs.Number.Numerals
import TypedFormat.Proofs.Number.Rounding

/-!
# Values on a command line

A value that is written with the letter of its kind, a colon and its own text is read as just that value.
For a floating point number this is because its shortest decimal is written out in positions, which read
as a decimal with the same bits (`Decimal.bits_withoutPower`).
-/

namespace TypedFormat

namespace CaseValue

/-! ### Integers -/

lemma natural?_toDigits (n : Nat) : natural? (Nat.toDigits 10 n) = some n := by
  have hall : (Nat.toDigits 10 n).all Char.isDigit = true :=
    List.all_eq_true.mpr isDigit_of_mem_toDigits
  rw [natural?, if_pos ⟨Nat.toDigits_ne_nil, hall⟩, Nat.ofDigitChars_ten_toDigits]

/-- Digits begin with no sign. -/
lemma exists_toDigits_eq_cons (n : Nat) :
    ∃ c more, Nat.toDigits 10 n = c :: more ∧ c.isDigit = true ∧ c ≠ '-' ∧ c ≠ '+' := by
  obtain ⟨c, more, hdigits⟩ := List.exists_cons_of_ne_nil (Nat.toDigits_ne_nil (n := n) (b := 10))
  have hc : c.isDigit = true := isDigit_of_mem_toDigits c (hdigits ▸ List.mem_cons_self)
  refine ⟨c, more, hdigits, hc, ?_, ?_⟩
  · rintro rfl
    cases hc
  · rintro rfl
    cases hc

lemma exists_placed_eq_cons (places units : Nat) :
    ∃ c more, placed places units = c :: more ∧ c.isDigit = true ∧ c ≠ '-' ∧ c ≠ '+' := by
  obtain ⟨c, more, hdigits, hc⟩ := exists_toDigits_eq_cons (units / tenTo places)
  unfold placed
  dsimp only
  rw [hdigits]
  split_ifs
  · exact ⟨c, more, rfl, hc⟩
  · exact ⟨c, _, List.cons_append, hc⟩

lemma readInt?_integerText (v : Int64) : readInt? (integerText v.toInt) = some v := by
  have hlow : -9223372036854775808 ≤ v.toInt := v.minValue_le_toInt
  have hhigh : v.toInt ≤ Int64.maxValue.toInt := v.toInt_le
  unfold integerText
  split_ifs with hv
  · have hvalue : -(v.toInt.natAbs : Int) = v.toInt := by omega
    simp only [readInt?, natural?_toDigits, Option.map_eq_map, Option.map_some, hvalue]
    simp [hlow, hhigh]
  · have hvalue : (v.toInt.natAbs : Int) = v.toInt := Int.natAbs_of_nonneg (Int.not_lt.mp hv)
    have hdigits := natural?_toDigits v.toInt.natAbs
    obtain ⟨c, more, hcons, -, hminus, hplus⟩ := exists_toDigits_eq_cons v.toInt.natAbs
    rw [hcons] at hdigits ⊢
    simp [readInt?, hdigits, hminus, hplus, hvalue, hlow, hhigh]

lemma readUint?_integerText (v : UInt64) : readUint? (integerText v.toNat) = some v := by
  have hlt : v.toNat < UInt64.size := v.toNat_lt
  have htext : integerText v.toNat = Nat.toDigits 10 v.toNat := by
    simp [integerText, Int.not_lt.mpr (Int.natCast_nonneg _)]
  have hdigits := natural?_toDigits v.toNat
  obtain ⟨c, more, hcons, -, -, hplus⟩ := exists_toDigits_eq_cons v.toNat
  rw [htext]
  rw [hcons] at hdigits ⊢
  simp [readUint?, hdigits, hplus, hlt]

/-! ### Floating point numbers -/

lemma isDigit_eq_false_of_point {rest : List Char} :
    ∀ c, ('.' :: rest).head? = some c → c.isDigit = false := by
  intro c hc
  obtain rfl := Option.some.inj hc
  rfl

/-- A numeral with places is read as the number of units that it writes. -/
lemma readDecimal?_placed (places units : Nat) :
    readDecimal? (placed places units) = some ⟨units, -(places : Int)⟩ := by
  have hwhole : ∀ n, ∀ c ∈ Nat.toDigits 10 n, c.isDigit = true := fun _ => isDigit_of_mem_toDigits
  by_cases hplaces : places = 0
  · have htext : placed places units = Nat.toDigits 10 units ++ [] := by
      simp [placed, hplaces]
    unfold readDecimal?
    rw [htext, takeWhile_run (hwhole units) (by simp), dropWhile_run (hwhole units) (by simp)]
    simp [readExponent?, Decimal.ofDigits, Nat.toDigits_ne_nil, hplaces]
  · have hpos : 0 < places := Nat.pos_of_ne_zero hplaces
    have hfraction : ∀ c ∈ paddedDigits places (units % tenTo places), c.isDigit = true :=
      isDigit_of_mem_paddedDigits
    have hlength := length_paddedDigits hpos (Nat.mod_lt units (tenTo_pos places))
    have hvalue := ofDigitChars_placed units hpos
    have htake := List.takeWhile_eq_self_iff.mpr hfraction
    have hdrop := List.dropWhile_eq_nil_iff.mpr hfraction
    unfold readDecimal? placed
    dsimp only
    rw [if_neg hplaces, takeWhile_run (hwhole _) isDigit_eq_false_of_point,
      dropWhile_run (hwhole _) isDigit_eq_false_of_point]
    simp [readExponent?, Decimal.ofDigits, Nat.toDigits_ne_nil, htake, hdrop, hvalue, hlength]

lemma toLower_of_isDigit {c : Char} (hc : c.isDigit = true) : c.toLower = c := by
  refine Char.toLower_eq_of_not_isUpper fun hupper => ?_
  simp only [Char.isDigit, Char.isUpper, Bool.and_eq_true, decide_eq_true_eq] at hc hupper
  exact absurd (UInt32.le_trans hupper.1 hc.2) (by decide)

/-- A text that begins with a digit is none of the words for what is not finite. -/
lemma readMagnitude?_of_isDigit {c : Char} (hc : c.isDigit = true) (more : List Char) :
    readMagnitude? (c :: more) = Decimal.bits <$> readDecimal? (c :: more) := by
  have hne : ∀ letter word, letter.isDigit = false →
      String.ofList (lowerAscii (c :: more)) ≠ String.ofList (letter :: word) := by
    intro letter word hletter heq
    have hcons := List.cons.inj (String.ofList_injective heq)
    rw [toLower_of_isDigit hc] at hcons
    rw [hcons.1, hletter] at hc
    cases hc
  unfold readMagnitude?
  split
  · next heq => exact absurd heq (hne 'i' ['n', 'f'] rfl)
  · next heq => exact absurd heq (hne 'i' ['n', 'f', 'i', 'n', 'i', 't', 'y'] rfl)
  · next heq => exact absurd heq (hne 'n' ['a', 'n'] rfl)
  · rfl

/-- A decimal in positions has a digit in front, and is read with its bits. -/
lemma readMagnitude?_positional {d : Decimal} (h : d.bits < Binary64.infinityBits) :
    ∃ c more, d.positional = c :: more ∧ c ≠ '-' ∧ c ≠ '+' ∧
      readMagnitude? (c :: more) = some d.bits := by
  have hread : readDecimal? d.positional = some d.withoutPower := readDecimal?_placed _ _
  obtain ⟨c, more, htext, hc, hminus, hplus⟩ :=
    exists_placed_eq_cons (-d.exponent).toNat (d.significand * tenTo d.exponent.toNat)
  have htext' : d.positional = c :: more := htext
  rw [htext'] at hread
  refine ⟨c, more, htext', hminus, hplus, ?_⟩
  rw [readMagnitude?_of_isDigit hc, hread, ← Decimal.bits_withoutPower h]
  rfl

/-- The text of a number is read as that number, if it is one. -/
lemma readFloat?_text {x : Binary64} (hx : x.isNaN = false) : readFloat? x.text = some x := by
  obtain ⟨c, more, htext, hminus, hplus, hread⟩ : ∃ c more,
      (if x.isInfinite then "inf".toList else (x.shortest .up).positional) = c :: more ∧
        c ≠ '-' ∧ c ≠ '+' ∧ readMagnitude? (c :: more) = some x.magnitudeBits := by
    by_cases hinfinite : x.isInfinite = true
    · have hbits : x.magnitudeBits = Binary64.infinityBits := beq_iff_eq.mp hinfinite
      rw [if_pos hinfinite, hbits]
      exact ⟨'i', ['n', 'f'], rfl, by decide, by decide, rfl⟩
    · have hle : x.magnitudeBits ≤ Binary64.infinityBits := not_lt.mp (of_decide_eq_false hx)
      have hne : x.magnitudeBits ≠ Binary64.infinityBits := fun h => hinfinite (beq_iff_eq.mpr h)
      have hlt : x.magnitudeBits < Binary64.infinityBits := lt_of_le_of_ne hle hne
      have hbits : (x.shortest .up).bits = x.magnitudeBits :=
        Binary64.bits_shortest .up (decide_eq_true hlt)
      rw [if_neg hinfinite, ← hbits]
      exact readMagnitude?_positional (by rwa [hbits])
  have hnumber := x.ofMagnitudeBits_magnitudeBits
  unfold Binary64.text
  dsimp only
  rw [htext, hx]
  cases hnegative : x.negative with
  | true =>
    rw [hnegative] at hnumber
    simp [readFloat?, hread, hnumber]
  | false =>
    rw [hnegative] at hnumber
    simp [readFloat?, hminus, hplus, hread, hnumber]

/-! ### Tags -/

/-- The letter for a kind of value. Raw bytes have none. -/
def letter? : CaseValue → Option Char
  | .int _   => some 'i'
  | .uint _  => some 'u'
  | .float _ => some 'f'
  | .char _  => some 'c'
  | .bool _  => some 'b'
  | .text _  => some 's'
  | .raw _   => none

/-- Whether a value is a float that is not a number. -/
def isNaN : CaseValue → Bool
  | .float x => x.isNaN
  | _        => false

/-- What stands before the first colon, and what begins there. -/
lemma takeWhile_colon {before : List Char} (h : ':' ∉ before) (rest : List Char) :
    (before ++ ':' :: rest).takeWhile (· ≠ ':') = before ∧
      (before ++ ':' :: rest).dropWhile (· ≠ ':') = ':' :: rest := by
  have hbefore : ∀ c ∈ before, decide (c ≠ ':') = true := by
    intro c hc
    exact decide_eq_true fun heq => h (heq ▸ hc)
  have hcolon : ∀ c, (':' :: rest).head? = some c → decide (c ≠ ':') = false := by
    intro c hc
    obtain rfl := Option.some.inj hc
    rfl
  exact ⟨takeWhile_run hbefore hcolon, dropWhile_run hbefore hcolon⟩

/-- A value is read back from its letter and its own text. -/
lemma ofNotation_letter {v : CaseValue} {letter : Char} (hletter : v.letter? = some letter)
    (hv : v.isNaN = false) :
    ofNotation (String.ofList (letter :: ':' :: v.argument.naturalText)) = .ok v := by
  have hcolon : ':' ∉ [letter] := by
    rw [List.mem_singleton]
    rintro rfl
    cases v <;> cases hletter
  obtain ⟨htake, hdrop⟩ := takeWhile_colon hcolon v.argument.naturalText
  rw [List.singleton_append] at htake hdrop
  unfold ofNotation
  rw [String.toList_ofList]
  dsimp only
  rw [htake, hdrop]
  cases v with
  | raw bytes => cases hletter
  | int v =>
    cases hletter
    simp only [argument, Argument.naturalText, tagged, readInt?_integerText]
  | uint v =>
    cases hletter
    simp only [argument, Argument.naturalText, tagged, readUint?_integerText]
  | float x =>
    cases hletter
    simp only [argument, Argument.naturalText, tagged, readFloat?_text hv]
  | char c =>
    cases hletter
    rfl
  | bool b =>
    cases hletter
    cases b <;> rfl
  | text s =>
    cases hletter
    simp only [argument, Argument.naturalText, String.ofList_toList]

/-- Without a letter that is one of these, a text stands for itself. -/
lemma ofNotation_of_not_letter {before rest : List Char} (hcolon : ':' ∉ before)
    (hbefore : ∀ v : CaseValue, ∀ letter ∈ v.letter?, before ≠ [letter]) :
    ofNotation (String.ofList (before ++ ':' :: rest))
      = .ok (.text (String.ofList (before ++ ':' :: rest))) := by
  obtain ⟨htake, hdrop⟩ := takeWhile_colon hcolon rest
  unfold ofNotation
  rw [String.toList_ofList]
  dsimp only
  rw [htake, hdrop]
  split
  · exact absurd rfl (hbefore (.int 0) 'i' rfl)
  · exact absurd rfl (hbefore (.uint 0) 'u' rfl)
  · exact absurd rfl (hbefore (.float ⟨0⟩) 'f' rfl)
  · exact absurd rfl (hbefore (.char 'c') 'c' rfl)
  · exact absurd rfl (hbefore (.bool true) 'b' rfl)
  · exact absurd rfl (hbefore (.text "") 's' rfl)
  · rfl

lemma ofNotation_of_no_colon {s : String} (h : ':' ∉ s.toList) : ofNotation s = .ok (.text s) := by
  have hall : ∀ c ∈ s.toList, decide (c ≠ ':') = true := by
    intro c hc
    exact decide_eq_true fun heq => h (heq ▸ hc)
  have hdrop : s.toList.dropWhile (· ≠ ':') = [] := List.dropWhile_eq_nil_iff.mpr hall
  unfold ofNotation
  dsimp only
  rw [hdrop]
  split <;> first | rfl | contradiction

/-- Each value but raw bytes and what is not a number is read back, exactly and as of its own kind, from
its letter, a colon and its own text, whatever that text looks like. A text without a colon, or with
anything but one of the letters in front of its first colon, is read as that text. -/
theorem ofNotation_written :
    (∀ (v : CaseValue) (letter : Char), v.letter? = some letter → v.isNaN = false →
      ofNotation (String.singleton letter ++ ":" ++ String.ofList v.argument.naturalText) = .ok v) ∧
    (∀ s : String, ':' ∉ s.toList → ofNotation s = .ok (.text s)) ∧
    (∀ before rest : String, ':' ∉ before.toList → before ∉ ["i", "u", "f", "c", "b", "s"] →
      ofNotation (before ++ ":" ++ rest) = .ok (.text (before ++ ":" ++ rest))) := by
  refine ⟨fun v letter hletter hv => ?_, fun s hs => ofNotation_of_no_colon hs,
    fun before rest hcolon hbefore => ?_⟩
  · have htext : String.singleton letter ++ ":" ++ String.ofList v.argument.naturalText
        = String.ofList (letter :: ':' :: v.argument.naturalText) := by
      apply String.toList_injective
      simp
    rw [htext]
    exact ofNotation_letter hletter hv
  · have htext : before ++ ":" ++ rest = String.ofList (before.toList ++ ':' :: rest.toList) := by
      apply String.toList_injective
      simp
    rw [htext]
    refine ofNotation_of_not_letter hcolon fun v letter hletter heq => hbefore ?_
    have hstring : before = String.ofList [letter] := by rw [← heq, String.ofList_toList]
    rw [hstring]
    cases v <;> cases hletter <;> decide

/-- A negative zero, a text that looks like a value, a character that is a colon, and texts with other
letters or none. -/
theorem ofNotation_written_of_colons :
    ofNotation "f:-0" = .ok (.float ⟨0x8000000000000000⟩) ∧
    ofNotation "s:i:5:é" = .ok (.text "i:5:é") ∧
    ofNotation "c::" = .ok (.char ':') ∧
    ofNotation "i5" = .ok (.text "i5") ∧
    ofNotation "ii:5" = .ok (.text "ii:5") := by
  obtain ⟨hvalue, hplain, hother⟩ := ofNotation_written
  refine ⟨?_, hvalue (.text "i:5:é") 's' rfl rfl, hvalue (.char ':') 'c' rfl rfl,
    hplain "i5" (by decide), hother "ii" "5" (by decide) (by decide)⟩
  have hzero : Argument.naturalText (.float ⟨0x8000000000000000⟩) = ['-', '0'] := by decide +kernel
  have hread := hvalue (.float ⟨0x8000000000000000⟩) 'f' rfl (by decide +kernel)
  rwa [argument, hzero] at hread

end CaseValue

end TypedFormat
