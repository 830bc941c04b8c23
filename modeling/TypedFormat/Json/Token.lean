import TypedFormat.Json.Literal

/-!
# JSON tokens

A JSON text is a list of tokens with blanks between them. Reading a token keeps what was
written: a number is not yet rounded, and a string whose escapes pair surrogates wrongly is
still a string, though one without a text.
-/

namespace TypedFormat.Json

inductive Token where
  | leftBracket
  | rightBracket
  | leftBrace
  | rightBrace
  | comma
  | colon
  | null
  | boolean (value : Bool)
  | number (literal : Literal)
  | string (value : Option String)

/-! ### Strings -/

/-- A piece of a string: a character, or the number that an escape gives for a UTF-16 unit. -/
inductive Piece where
  | character (c : Char)
  | unit (n : Nat)

/-- The value of a hexadecimal digit. -/
def hexDigit? (c : Char) : Option Nat :=
  if '0' ≤ c ∧ c ≤ '9' then some (c.toNat - '0'.toNat)
  else if 'a' ≤ c ∧ c ≤ 'f' then some (c.toNat - 'a'.toNat + 10)
  else if 'A' ≤ c ∧ c ≤ 'F' then some (c.toNat - 'A'.toNat + 10)
  else none

/-- The number that four hexadecimal digits write. -/
def hexUnit? (a b c d : Char) : Option Nat := do
  some (((← hexDigit? a) * 16 + (← hexDigit? b)) * 256 + (← hexDigit? c) * 16 + (← hexDigit? d))

/-- The character that a letter stands for after a backslash. -/
def unescape? : Char → Option Char
  | '"'  => some '"'
  | '\\' => some '\\'
  | '/'  => some '/'
  | 'b'  => some '\x08'
  | 'f'  => some '\x0c'
  | 'n'  => some '\n'
  | 'r'  => some '\r'
  | 't'  => some '\t'
  | _    => none

/-- Reads the pieces of a string up to its closing quote, after the opening one. Control
characters cannot stand in a string. -/
def readPieces : List Char → Option (List Piece × List Char)
  | []                                  => none
  | '"' :: rest                         => some ([], rest)
  | '\\' :: 'u' :: a :: b :: c :: d :: rest => do
    let unit ← hexUnit? a b c d
    let (pieces, rest) ← readPieces rest
    some (.unit unit :: pieces, rest)
  | '\\' :: letter :: rest              => do
    let c ← unescape? letter
    let (pieces, rest) ← readPieces rest
    some (.character c :: pieces, rest)
  | c :: rest                           =>
    if c < ' ' ∨ c = '\\' then none
    else do
      let (pieces, rest) ← readPieces rest
      some (.character c :: pieces, rest)

def isHighSurrogate (n : Nat) : Bool :=
  0xD800 ≤ n && n < 0xDC00

def isLowSurrogate (n : Nat) : Bool :=
  0xDC00 ≤ n && n < 0xE000

/-- The text of pieces, if every high surrogate is followed by a low one and no low one stands
elsewhere. -/
def joinPieces : List Piece → Option (List Char)
  | []                            => some []
  | .character c :: rest          => (c :: ·) <$> joinPieces rest
  | .unit high :: .unit low :: rest =>
    if isHighSurrogate high then
      if isLowSurrogate low then
        let n := 0x10000 + (high - 0xD800) * 0x400 + (low - 0xDC00)
        (Char.ofNat n :: ·) <$> joinPieces rest
      else none
    else if isLowSurrogate high then none
    else (Char.ofNat high :: ·) <$> joinPieces (.unit low :: rest)
  | .unit n :: rest               =>
    if isHighSurrogate n || isLowSurrogate n then none
    else (Char.ofNat n :: ·) <$> joinPieces rest

/-! ### Numbers -/

/-- Takes the digits in front, of which there must be one at least. -/
def takeDigits (text : List Char) : Option (List Char × List Char) :=
  match text.takeWhile Char.isDigit with
  | []     => none
  | digits => some (digits, text.dropWhile Char.isDigit)

/-- Takes a point and the digits after it, or nothing. -/
def takeFraction : List Char → Option (List Char × List Char)
  | '.' :: rest => takeDigits rest
  | text        => some ([], text)

/-- Takes a sign, or nothing, and says whether it is a minus. -/
def takeSign : List Char → Bool × List Char
  | '-' :: rest => (true, rest)
  | '+' :: rest => (false, rest)
  | text        => (false, text)

/-- Takes the digits of an exponent with their sign. -/
def takeInteger (text : List Char) : Option (Int × List Char) :=
  let (negative, text) := takeSign text
  (takeDigits text).map fun (digits, rest) =>
    let n : Int := Nat.ofDigitChars 10 digits 0
    (if negative then -n else n, rest)

/-- Takes an exponent, or nothing. -/
def takeExponent : List Char → Option (Option Int × List Char)
  | 'e' :: rest => (takeInteger rest).map fun (n, rest) => (some n, rest)
  | 'E' :: rest => (takeInteger rest).map fun (n, rest) => (some n, rest)
  | text        => some (none, text)

/-- Whether digits can stand before the point: no zero stands before another digit. -/
def isWhole (digits : List Char) : Bool :=
  digits.length ≤ 1 || digits.head? != some '0'

/-- Takes a number without its sign. -/
def takeMagnitude (negative : Bool) (text : List Char) : Option (Literal × List Char) := do
  let (whole, text) ← takeDigits text
  let (fraction, text) ← takeFraction text
  let (exponent, text) ← takeExponent text
  if isWhole whole then some (⟨negative, whole, fraction, exponent⟩, text) else none

/-! ### Tokens -/

/-- Takes a token from the front, which is no blank. -/
def takeToken (c : Char) (rest : List Char) : Option (Token × List Char) :=
  match c, rest with
  | '[', rest    => some (.leftBracket, rest)
  | ']', rest    => some (.rightBracket, rest)
  | '\x7b', rest => some (.leftBrace, rest)
  | '\x7d', rest => some (.rightBrace, rest)
  | ',', rest    => some (.comma, rest)
  | ':', rest    => some (.colon, rest)
  | 'n', 'u' :: 'l' :: 'l' :: rest        => some (.null, rest)
  | 't', 'r' :: 'u' :: 'e' :: rest        => some (.boolean true, rest)
  | 'f', 'a' :: 'l' :: 's' :: 'e' :: rest => some (.boolean false, rest)
  | '"', rest    =>
    (readPieces rest).map fun (pieces, rest) =>
      (.string ((joinPieces pieces).map String.ofList), rest)
  | '-', rest    => (takeMagnitude true rest).map fun (n, rest) => (.number n, rest)
  | c, rest      => (takeMagnitude false (c :: rest)).map fun (n, rest) => (.number n, rest)

/-- Whether a character can stand between tokens. -/
def isSpace (c : Char) : Bool :=
  c == ' ' || c == '\n' || c == '\r' || c == '\t'

/-! ### What is left is shorter -/

theorem length_lt_of_readPieces {text rest : List Char} {pieces : List Piece}
    (h : readPieces text = some (pieces, rest)) : rest.length < text.length := by
  fun_induction readPieces text generalizing pieces rest with
  | case1 => simp at h
  | case2 => simp only [Option.some.injEq, Prod.mk.injEq] at h; simp [← h.2]
  | case3 a b c d text ih =>
    simp only [Option.bind_eq_bind, Option.bind_eq_some_iff] at h
    obtain ⟨_, _, ⟨p, r⟩, hp, h⟩ := h
    simp only [Option.some.injEq, Prod.mk.injEq] at h
    have := ih hp
    simp only [List.length_cons, ← h.2]
    omega
  | case4 letter text _ ih =>
    simp only [Option.bind_eq_bind, Option.bind_eq_some_iff] at h
    obtain ⟨_, _, ⟨p, r⟩, hp, h⟩ := h
    simp only [Option.some.injEq, Prod.mk.injEq] at h
    have := ih hp
    simp only [List.length_cons, ← h.2]
    omega
  | case5 => simp at h
  | case6 c text _ _ _ _ ih =>
    simp only [Option.bind_eq_bind, Option.bind_eq_some_iff] at h
    obtain ⟨⟨p, r⟩, hp, h⟩ := h
    simp only [Option.some.injEq, Prod.mk.injEq] at h
    have := ih hp
    simp only [List.length_cons, ← h.2]
    omega

theorem length_lt_of_takeDigits {text digits rest : List Char}
    (h : takeDigits text = some (digits, rest)) : rest.length < text.length := by
  unfold takeDigits at h
  have hlen :=
    congrArg List.length (List.takeWhile_append_dropWhile (p := Char.isDigit) (l := text))
  split at h
  · simp at h
  · simp only [Option.some.injEq, Prod.mk.injEq] at h
    rename_i hne
    have : (text.takeWhile Char.isDigit).length ≠ 0 := by simpa using hne
    rw [List.length_append] at hlen
    rw [← h.2]
    omega

theorem length_le_of_takeFraction {text digits rest : List Char}
    (h : takeFraction text = some (digits, rest)) : rest.length ≤ text.length := by
  unfold takeFraction at h
  split at h
  · have := length_lt_of_takeDigits h
    simp only [List.length_cons]
    omega
  · simp_all

theorem length_takeSign_le (text : List Char) : (takeSign text).2.length ≤ text.length := by
  unfold takeSign
  split <;> simp

theorem length_lt_of_takeInteger {text rest : List Char} {n : Int}
    (h : takeInteger text = some (n, rest)) : rest.length < text.length := by
  simp only [takeInteger, Option.map_eq_some_iff, Prod.mk.injEq, Prod.exists] at h
  obtain ⟨digits, r, hd, -, rfl⟩ := h
  have := length_lt_of_takeDigits hd
  have := length_takeSign_le text
  omega

theorem length_le_of_takeExponent {text rest : List Char} {n : Option Int}
    (h : takeExponent text = some (n, rest)) : rest.length ≤ text.length := by
  unfold takeExponent at h
  split at h
  case h_3 => simp_all
  all_goals
    simp only [Option.map_eq_some_iff, Prod.mk.injEq, Prod.exists] at h
    obtain ⟨digits, r, hd, -, rfl⟩ := h
    have := length_lt_of_takeInteger hd
    simp only [List.length_cons]
    omega

theorem length_lt_of_takeMagnitude {negative : Bool} {text rest : List Char} {n : Literal}
    (h : takeMagnitude negative text = some (n, rest)) : rest.length < text.length := by
  simp only [takeMagnitude, Option.bind_eq_bind, Option.bind_eq_some_iff, Prod.exists] at h
  obtain ⟨whole, t₁, h₁, fraction, t₂, h₂, exponent, t₃, h₃, h⟩ := h
  have := length_lt_of_takeDigits h₁
  have := length_le_of_takeFraction h₂
  have := length_le_of_takeExponent h₃
  obtain rfl : rest = t₃ := by split at h <;> simp_all
  omega

theorem length_le_of_takeToken {c : Char} {text rest : List Char} {token : Token}
    (h : takeToken c text = some (token, rest)) : rest.length ≤ text.length := by
  unfold takeToken at h
  split at h
  case h_10 =>
    simp only [Option.map_eq_some_iff, Prod.mk.injEq, Prod.exists] at h
    obtain ⟨_, r, hr, -, rfl⟩ := h
    exact Nat.le_of_lt (length_lt_of_readPieces hr)
  case h_11 =>
    simp only [Option.map_eq_some_iff, Prod.mk.injEq, Prod.exists] at h
    obtain ⟨_, r, hr, -, rfl⟩ := h
    exact Nat.le_of_lt (length_lt_of_takeMagnitude hr)
  case h_12 =>
    simp only [Option.map_eq_some_iff, Prod.mk.injEq, Prod.exists] at h
    obtain ⟨_, r, hr, -, rfl⟩ := h
    exact Nat.le_of_lt_succ (length_lt_of_takeMagnitude hr)
  all_goals
    simp only [Option.some.injEq, Prod.mk.injEq] at h
    obtain ⟨-, rfl⟩ := h
    try simp only [List.length_cons]
    omega

/-! ### Texts -/

/-- The tokens of a text, if it is made of tokens and blanks. -/
def tokens? : List Char → Option (List Token)
  | []        => some []
  | c :: rest =>
    if isSpace c then tokens? rest
    else
      match _h : takeToken c rest with
      | none                => none
      | some (token, after) => (token :: ·) <$> tokens? after
termination_by text => text.length
decreasing_by
  · simp
  · have := length_le_of_takeToken ‹_›
    simp only [List.length_cons]
    omega

end TypedFormat.Json
