import Mathlib
import TypedFormat.Json.Reading
import TypedFormat.Proofs.Number.Numerals

/-!
# Tokens are read back

A string is read from its escaped text, an integer from its digits, and a floating point number as the
literal of its shortest decimal. The text after a number must not go on with it (`EndsNumber`).
-/

namespace TypedFormat.Json

/-! ### Strings -/

/-- How a character within a string is read: as its code, where six characters are needed to write
it, and else as itself. -/
def writtenPiece (c : Char) : Piece :=
  if (escape c).length = 6 then .unit c.toNat else .character c

/-- Only a control character is written as its code. -/
lemma lt_of_length_escape {c : Char} (h : (escape c).length = 6) : c.toNat < 32 := by
  unfold escape at h
  split at h <;> try simp at h
  split at h
  · next hlt => exact hlt
  · simp at h

lemma hexUnit?_digitChar {n : Nat} (hn : n < 32) :
    hexUnit? '0' '0' (Nat.digitChar (n / 16)) (Nat.digitChar (n % 16)) = some n := by
  have h : ∀ n : Fin 32,
      hexUnit? '0' '0' (Nat.digitChar (n / 16)) (Nat.digitChar (n % 16)) = some n.val := by decide
  exact h ⟨n, hn⟩

lemma readPieces_letter {letter c : Char} (hc : unescape? letter = some c) (text : List Char) :
    readPieces ('\\' :: letter :: text)
      = (readPieces text).map fun (pieces, rest) => (.character c :: pieces, rest) := by
  have hu : letter ≠ 'u' := by
    rintro rfl
    cases hc
  cases h : readPieces text <;> simp [readPieces, hu, hc, h]

lemma readPieces_plain {c : Char} (hquote : c ≠ '"') (hbackslash : c ≠ '\\') (hspace : ¬ c < ' ')
    (text : List Char) :
    readPieces (c :: text)
      = (readPieces text).map fun (pieces, rest) => (.character c :: pieces, rest) := by
  cases h : readPieces text <;> simp [readPieces, hbackslash, hspace, h]

lemma readPieces_escape (c : Char) (text : List Char) :
    readPieces (escape c ++ text)
      = (readPieces text).map fun (pieces, rest) => (writtenPiece c :: pieces, rest) := by
  unfold writtenPiece escape
  split
  case h_8 hquote hbackslash _ _ _ _ _ =>
    split_ifs with hspace hlength hlength
    · have hunit : hexUnit? '0' '0' (Nat.digitChar (c.toNat / 16)) (Nat.digitChar (c.toNat % 16))
          = some c.toNat := hexUnit?_digitChar hspace
      cases h : readPieces text <;> simp [readPieces, hunit, h]
    · simp at hlength
    · simp at hlength
    · exact readPieces_plain hquote hbackslash hspace text
  all_goals exact readPieces_letter rfl text

/-- A written string is read up to its closing quote. -/
lemma readPieces_flatMap_escape (s rest : List Char) :
    readPieces (s.flatMap escape ++ '"' :: rest) = some (s.map writtenPiece, rest) := by
  induction s with
  | nil => rfl
  | cons c s ih =>
    rw [List.flatMap_cons, List.append_assoc, readPieces_escape, ih]
    rfl

/-- A code that is no surrogate stands for its character, whatever follows it. -/
lemma joinPieces_unit {n : Nat} (hn : n < 32) (pieces : List Piece) :
    joinPieces (.unit n :: pieces) = (Char.ofNat n :: ·) <$> joinPieces pieces := by
  have hhigh : isHighSurrogate n = false := by simp [isHighSurrogate]; omega
  have hlow : isLowSurrogate n = false := by simp [isLowSurrogate]; omega
  cases pieces with
  | nil => simp [joinPieces, hhigh, hlow]
  | cons piece pieces => cases piece <;> simp [joinPieces, hhigh, hlow]

lemma joinPieces_map_writtenPiece (s : List Char) :
    joinPieces (s.map writtenPiece) = some s := by
  induction s with
  | nil => rfl
  | cons c s ih =>
    rw [List.map_cons, writtenPiece]
    split_ifs with hlength
    · rw [joinPieces_unit (lt_of_length_escape hlength), ih, Char.ofNat_toNat]
      rfl
    · rw [joinPieces, ih]
      rfl

/-! ### Digits -/

/-- A text with which a number before it does not go on. -/
def EndsNumber (text : List Char) : Prop :=
  ∀ c, text.head? = some c → c.isDigit = false ∧ c ≠ '.' ∧ c ≠ 'e' ∧ c ≠ 'E'

lemma endsNumber_nil : EndsNumber [] := by
  intro c h
  cases h

lemma endsNumber_cons {c : Char} (h : c.isDigit = false ∧ c ≠ '.' ∧ c ≠ 'e' ∧ c ≠ 'E')
    (text : List Char) : EndsNumber (c :: text) := by
  intro x hx
  obtain rfl := Option.some.inj hx
  exact h

/-- A text that begins with no digit. -/
lemma isDigit_head?_cons {c : Char} (hc : c.isDigit = false) (text : List Char) :
    ∀ x, (c :: text).head? = some x → x.isDigit = false := by
  intro x hx
  obtain rfl := Option.some.inj hx
  exact hc

section Numbers

variable {digits rest : List Char}

lemma takeDigits_append (hne : digits ≠ []) (hdigits : ∀ c ∈ digits, c.isDigit = true)
    (hrest : ∀ c, rest.head? = some c → c.isDigit = false) :
    takeDigits (digits ++ rest) = some (digits, rest) := by
  unfold takeDigits
  rw [takeWhile_run hdigits hrest, dropWhile_run hdigits hrest]
  split
  · contradiction
  · rfl

lemma takeFraction_point (hne : digits ≠ []) (hdigits : ∀ c ∈ digits, c.isDigit = true)
    (hrest : ∀ c, rest.head? = some c → c.isDigit = false) :
    takeFraction ('.' :: (digits ++ rest)) = some (digits, rest) :=
  takeDigits_append hne hdigits hrest

lemma takeFraction_of_head?_ne (hrest : rest.head? ≠ some '.') :
    takeFraction rest = some ([], rest) := by
  cases rest with
  | nil => rfl
  | cons c rest =>
    have hc : c ≠ '.' := by simpa using hrest
    simp [takeFraction, hc]

lemma takeExponent_of_head?_ne (he : rest.head? ≠ some 'e') (hE : rest.head? ≠ some 'E') :
    takeExponent rest = some (none, rest) := by
  cases rest with
  | nil => rfl
  | cons c rest =>
    have hc : c ≠ 'e' := by simpa using he
    have hC : c ≠ 'E' := by simpa using hE
    simp [takeExponent, hc, hC]

lemma takeExponent_written (n : Int) (hrest : ∀ c, rest.head? = some c → c.isDigit = false) :
    takeExponent ('e' :: (if n < 0 then '-' else '+') :: (Nat.toDigits 10 n.natAbs ++ rest))
      = some (some n, rest) := by
  have hdigits := takeDigits_append Nat.toDigits_ne_nil
    (isDigit_of_mem_toDigits (n := n.natAbs)) hrest
  have hvalue : Nat.ofDigitChars 10 (Nat.toDigits 10 n.natAbs) 0 = n.natAbs :=
    Nat.ofDigitChars_ten_toDigits
  split_ifs with hn
  · simp [takeExponent, takeInteger, takeSign, hdigits, hvalue, abs_of_neg hn]
  · simp [takeExponent, takeInteger, takeSign, hdigits, hvalue, abs_of_nonneg (not_lt.mp hn)]

lemma takeMagnitude_eq {negative : Bool} {text afterWhole afterFraction whole fraction : List Char}
    {exponent : Option Int} (hwhole : takeDigits text = some (whole, afterWhole))
    (hfraction : takeFraction afterWhole = some (fraction, afterFraction))
    (hexponent : takeExponent afterFraction = some (exponent, rest))
    (hiswhole : isWhole whole = true) :
    takeMagnitude negative text = some (⟨negative, whole, fraction, exponent⟩, rest) := by
  simp [takeMagnitude, hwhole, hfraction, hexponent, hiswhole]

lemma isWhole_toDigits (n : Nat) : isWhole (Nat.toDigits 10 n) = true := by
  unfold isWhole
  by_cases hn : n = 0
  · rw [hn, Nat.toDigits_zero]
    rfl
  · have hhead := head?_toDigits_ne hn
    simp [hhead]

/-! ### Numbers -/

/-- Digits alone are a literal. -/
lemma takeMagnitude_integer (negative : Bool) (n : Nat) (hrest : EndsNumber rest) :
    takeMagnitude negative (Nat.toDigits 10 n ++ rest)
      = some (⟨negative, Nat.toDigits 10 n, [], none⟩, rest) :=
  takeMagnitude_eq
    (takeDigits_append Nat.toDigits_ne_nil isDigit_of_mem_toDigits fun c hc => (hrest c hc).1)
    (takeFraction_of_head?_ne fun hc => (hrest _ hc).2.1 rfl)
    (takeExponent_of_head?_ne (fun hc => (hrest _ hc).2.2.1 rfl) fun hc => (hrest _ hc).2.2.2 rfl)
    (isWhole_toDigits n)

/-- So are digits with a point among them. -/
lemma takeMagnitude_point (negative : Bool) (n : Nat) {fraction : List Char} (hne : fraction ≠ [])
    (hfraction : ∀ c ∈ fraction, c.isDigit = true) (hrest : EndsNumber rest) :
    takeMagnitude negative (Nat.toDigits 10 n ++ '.' :: (fraction ++ rest))
      = some (⟨negative, Nat.toDigits 10 n, fraction, none⟩, rest) :=
  takeMagnitude_eq
    (takeDigits_append Nat.toDigits_ne_nil isDigit_of_mem_toDigits (isDigit_head?_cons rfl _))
    (takeFraction_point hne hfraction fun c hc => (hrest c hc).1)
    (takeExponent_of_head?_ne (fun hc => (hrest _ hc).2.2.1 rfl) fun hc => (hrest _ hc).2.2.2 rfl)
    (isWhole_toDigits n)

end Numbers

/-! ### Integers -/

/-- Digits that 64 bits hold are all taken. -/
lemma takeSignificand_of_lt {digits : List Char} {significand : Nat}
    (h : Nat.ofDigitChars 10 digits significand < UInt64.size) :
    takeSignificand significand digits = (Nat.ofDigitChars 10 digits significand, []) := by
  induction digits generalizing significand with
  | nil => rfl
  | cons c rest ih =>
    have hle : ∀ (digits : List Char) n, n ≤ Nat.ofDigitChars 10 digits n := by
      intro digits
      induction digits with
      | nil => exact fun n => le_rfl
      | cons c digits ih =>
        intro n
        rw [Nat.ofDigitChars_cons]
        exact le_trans (by omega) (ih _)
    rw [Nat.ofDigitChars_cons, Nat.mul_comm] at h ⊢
    rw [takeSignificand, if_pos (lt_of_le_of_lt (hle rest _) h), ih h]

/-- The literal that is written for an integer. -/
def integerLiteral (v : Int) : Literal :=
  ⟨v < 0, Nat.toDigits 10 v.natAbs, [], none⟩

/-- An integer of 64 bits is read from its literal. -/
lemma number?_integerLiteral {v : Int} (hleast : leastInteger ≤ v) (hgreatest : v ≤ greatestInteger) :
    (integerLiteral v).number? = some (.integer v) := by
  have hsize : v.natAbs < UInt64.size := by
    simp only [leastInteger, greatestInteger, UInt64.size] at *
    have hmin : Int64.minValue.toInt = -9223372036854775808 := rfl
    omega
  have htake : takeSignificand 0 (Nat.toDigits 10 v.natAbs) = (v.natAbs, []) := by
    have hvalue : Nat.ofDigitChars 10 (Nat.toDigits 10 v.natAbs) 0 = v.natAbs :=
      Nat.ofDigitChars_ten_toDigits
    rw [takeSignificand_of_lt (by rwa [hvalue]), hvalue]
  have hv : (if decide (v < 0) = true then -((v.natAbs : Nat) : Int) else (v.natAbs : Nat)) = v := by
    split_ifs with hneg <;> simp only [decide_eq_true_eq] at hneg <;> omega
  have hinteger : ¬ ((decide (v < 0) = true ∧ v.natAbs = 0) ∨ v < leastInteger) := by
    simp only [decide_eq_true_eq]
    omega
  simp only [Literal.number?, integerLiteral, htake, List.isEmpty_nil, Option.isNone_none,
    Bool.and_self, if_true, Literal.integerNumber, hv, if_neg hinteger]

/-! ### Floating point numbers -/

section Decimals

variable {d : Decimal} {rest : List Char}

/-- The literal that is written for a decimal. A whole number has a zero after its point, and with an
exponent the point stands after the first digit. -/
def decimalLiteral (negative : Bool) (d : Decimal) : Literal :=
  let places := (-d.exponent).toNat
  if isPositional d.order then
    if 0 ≤ d.exponent then
      ⟨negative, Nat.toDigits 10 (d.significand * tenTo d.exponent.toNat), ['0'], none⟩
    else
      ⟨negative, Nat.toDigits 10 (d.significand / tenTo places),
        paddedDigits places (d.significand % tenTo places), none⟩
  else ⟨negative, d.digits.take 1, d.digits.drop 1, some d.order⟩

lemma takeMagnitude_scientific (negative : Bool) (d : Decimal) (hrest : EndsNumber rest) :
    takeMagnitude negative (scientific d ++ rest)
      = some (⟨negative, d.digits.take 1, d.digits.drop 1, some d.order⟩, rest) := by
  obtain ⟨c, more, hdigits⟩ := List.exists_cons_of_ne_nil
    (Nat.toDigits_ne_nil (n := d.significand) (b := 10))
  have hisdigit : ∀ x ∈ c :: more, x.isDigit = true := hdigits ▸ isDigit_of_mem_toDigits
  have hexponent := takeExponent_written d.order fun c hc => (hrest c hc).1
  have hc : ∀ x ∈ [c], x.isDigit = true := by simp [hisdigit c]
  -- The first digit stands before the point, and a point is written if there are more.
  simp only [scientific, Decimal.digits, hdigits]
  cases more with
  | nil =>
    exact @takeMagnitude_eq _ _ _ ('e' :: _) _ _ _ _
      (takeDigits_append (List.cons_ne_nil c []) hc (isDigit_head?_cons rfl _))
      (takeFraction_of_head?_ne (by simp)) (by simpa using hexponent) rfl
  | cons c' more =>
    simp only [List.cons_append, List.append_assoc]
    exact @takeMagnitude_eq _ _ _ ('.' :: (c' :: more ++ 'e' :: _)) _ _ _ _
      (takeDigits_append (List.cons_ne_nil c []) hc (isDigit_head?_cons rfl _))
      (takeFraction_point (List.cons_ne_nil c' more)
        (fun x hx => hisdigit x (List.mem_cons_of_mem c hx)) (isDigit_head?_cons rfl _))
      (by simpa using hexponent) rfl

lemma takeMagnitude_decimalText (negative : Bool) (d : Decimal) (hrest : EndsNumber rest) :
    takeMagnitude negative (decimalText d ++ rest) = some (decimalLiteral negative d, rest) := by
  unfold decimalText decimalLiteral
  by_cases hpositional : isPositional d.order = true
  · by_cases hexponent : 0 ≤ d.exponent
    · have hplaces : (-d.exponent).toNat = 0 := by omega
      have hpoint := takeMagnitude_point negative (d.significand * tenTo d.exponent.toNat)
        (List.cons_ne_nil '0' []) (by simp) hrest
      simpa [hpositional, hexponent, Decimal.positional, hplaces, placed] using hpoint
    · have hplaces : 0 < (-d.exponent).toNat := by omega
      have hup : d.exponent.toNat = 0 := by omega
      have hpoint := takeMagnitude_point negative (d.significand / tenTo (-d.exponent).toNat)
        (paddedDigits_ne_nil (-d.exponent).toNat (d.significand % tenTo (-d.exponent).toNat))
        isDigit_of_mem_paddedDigits hrest
      simpa [hpositional, hexponent, Decimal.positional, placed, hplaces.ne', hup] using hpoint
  · simp only [hpositional]
    exact takeMagnitude_scientific negative d hrest

end Decimals

/-- The literal that is written for a finite number. -/
def floatLiteral (x : Binary64) : Literal :=
  if x.magnitudeBits = 0 then ⟨x.negative, ['0'], ['0'], none⟩
  else decimalLiteral x.negative (x.shortest .even)

/-! ### Tokens -/

lemma tokens?_space {c : Char} (h : isSpace c = true) (text : List Char) :
    tokens? (c :: text) = tokens? text := by
  rw [tokens?, if_pos h]

lemma tokens?_cons {c : Char} {text rest : List Char} {token : Token} (hspace : isSpace c = false)
    (h : takeToken c text = some (token, rest)) :
    tokens? (c :: text) = (tokens? rest).map (token :: ·) := by
  rw [tokens?]
  simp only [hspace, Bool.false_eq_true, if_false]
  split
  · next hnone => rw [hnone] at h; cases h
  · next token' rest' hsome =>
    rw [hsome] at h
    cases h
    rfl

lemma isSpace_of_isDigit {c : Char} (hc : c.isDigit = true) : isSpace c = false := by
  by_contra hspace
  simp only [isSpace, Bool.not_eq_false, Bool.or_eq_true, beq_iff_eq] at hspace
  rcases hspace with ((rfl | rfl) | rfl) | rfl <;> cases hc

/-- No character that begins a number begins another token or stands between tokens. -/
lemma takeToken_digit {c : Char} (hc : c.isDigit = true) (text : List Char) :
    takeToken c text
      = (takeMagnitude false (c :: text)).map fun (n, rest) => (.number n, rest) := by
  unfold takeToken
  split <;> first | rfl | cases hc

/-- A number begins with a digit. -/
lemma exists_digit_of_takeMagnitude {negative : Bool} {text : List Char} {r : Literal × List Char}
    (h : takeMagnitude negative text = some r) : ∃ c more, text = c :: more ∧ c.isDigit = true := by
  cases text with
  | nil => cases h
  | cons c more =>
    refine ⟨c, more, rfl, ?_⟩
    by_contra hc
    have hdigits : takeDigits (c :: more) = none := by simp [takeDigits, hc]
    simp [takeMagnitude, hdigits] at h

lemma tokens?_number {negative : Bool} {text rest : List Char} {n : Literal}
    (h : takeMagnitude negative text = some (n, rest)) :
    tokens? (if negative then '-' :: text else text) = (tokens? rest).map (.number n :: ·) := by
  cases negative with
  | true =>
    have htoken : takeToken '-' text = some (.number n, rest) := by simp [takeToken, h]
    exact tokens?_cons rfl htoken
  | false =>
    obtain ⟨c, more, rfl, hc⟩ := exists_digit_of_takeMagnitude h
    have htoken : takeToken c more = some (.number n, rest) := by
      rw [takeToken_digit hc, h]
      rfl
    exact tokens?_cons (isSpace_of_isDigit hc) htoken

lemma tokens?_integerText (v : Int) {rest : List Char} (hrest : EndsNumber rest) :
    tokens? (integerText v ++ rest) = (tokens? rest).map (.number (integerLiteral v) :: ·) := by
  have htokens := tokens?_number (takeMagnitude_integer (decide (v < 0)) v.natAbs hrest)
  have htext : integerText v ++ rest = if decide (v < 0) = true
      then '-' :: (Nat.toDigits 10 v.natAbs ++ rest) else Nat.toDigits 10 v.natAbs ++ rest := by
    unfold integerText
    by_cases hv : v < 0 <;> simp [hv]
  rw [htext, htokens, integerLiteral]

/-- The token that is written for a floating point number. -/
def floatToken (x : Binary64) : Token :=
  if x.isFinite then .number (floatLiteral x) else .null

lemma tokens?_null (rest : List Char) :
    tokens? ("null".toList ++ rest) = (tokens? rest).map (.null :: ·) :=
  tokens?_cons rfl rfl

lemma tokens?_floatText (x : Binary64) {rest : List Char} (hrest : EndsNumber rest) :
    tokens? (floatText x ++ rest) = (tokens? rest).map (floatToken x :: ·) := by
  unfold floatText floatToken
  by_cases hx : x.isFinite = true
  · have hmagnitude : takeMagnitude x.negative
        ((if x.magnitudeBits = 0 then ['0', '.', '0'] else decimalText (x.shortest .even)) ++ rest)
        = some (floatLiteral x, rest) := by
      unfold floatLiteral
      split_ifs with hzero
      · exact takeMagnitude_point x.negative 0 (List.cons_ne_nil '0' []) (by simp) hrest
      · exact takeMagnitude_decimalText x.negative (x.shortest .even) hrest
    have htokens := tokens?_number hmagnitude
    simp only [hx, if_true]
    rw [← htokens]
    split_ifs <;> rfl
  · simp only [hx, Bool.false_eq_true, if_false]
    exact tokens?_null rest

lemma tokens?_quote (s : String) (rest : List Char) :
    tokens? (quote s.toList ++ rest) = (tokens? rest).map (.string (some s) :: ·) := by
  have hread : takeToken '"' (s.toList.flatMap escape ++ '"' :: rest)
      = some (.string (some s), rest) := by
    simp [takeToken, readPieces_flatMap_escape, joinPieces_map_writtenPiece]
  rw [quote, List.cons_append, List.append_assoc]
  exact tokens?_cons rfl hread

end TypedFormat.Json
