import TypedFormat.Directive

/-!
# Reading directives

A directive is read from the text after its `%` in a fixed order, each part but the last
optional:

    ["-"] ["+"] ["#"] ["0"] [digits | "*"] ["." [digits | "*"]] [hh|h|ll|l|z|t|j|L] conversion

Each stage takes the longest text it can and returns what is left. A point that neither digits
nor `*` follow asks for precision zero. Where reading fails, it says which character stands in
the place of the conversion, or that there is none.
-/

namespace TypedFormat

namespace Directive

/-! ### Stages -/

/-- Takes a given character from the front, if it stands there. -/
def takeChar (c : Char) : List Char → Bool × List Char
  | x :: rest => if x = c then (true, rest) else (false, x :: rest)
  | []        => (false, [])

/-- Takes the flags, each at most once and in their order. Adjusting to the left overrides the
zero flag. -/
def takeFlags (text : List Char) : Flags × List Char :=
  let (adjustLeft, text) := takeChar '-' text
  let (showSign, text) := takeChar '+' text
  let (alternate, text) := takeChar '#' text
  let (zeroPad, text) := takeChar '0' text
  (⟨adjustLeft, showSign, alternate, zeroPad && !adjustLeft⟩, text)

/-- The greatest size that can be written; longer digit runs count as this one. -/
def largestSize : Nat :=
  UInt64.size - 1

/-- The number that one more digit makes of `n`. Neither step goes past the greatest size. -/
def addDigit (n : Nat) (digit : Char) : Nat :=
  min (min (n * 10) largestSize + (digit.toNat - '0'.toNat)) largestSize

/-- Takes a run of digits. -/
def takeNumber (text : List Char) : Option Nat × List Char :=
  match text.takeWhile Char.isDigit with
  | []     => (none, text)
  | digits => (some (digits.foldl addDigit 0), text.dropWhile Char.isDigit)

/-- Takes a width. -/
def takeWidth (text : List Char) : Size × List Char :=
  match takeChar '*' text with
  | (true, rest)  => (.fromArgument, rest)
  | (false, _)    =>
    match takeNumber text with
    | (some n, rest) => (.literal n, rest)
    | (none, rest)   => (.absent, rest)

/-- Takes a precision. -/
def takePrecision (text : List Char) : Size × List Char :=
  match takeChar '.' text with
  | (false, _)   => (.absent, text)
  | (true, rest) =>
    match takeWidth rest with
    | (.absent, rest) => (.literal 0, rest)
    | (size, rest)    => (size, rest)

/-- Takes a length modifier, the two-letter ones before those of one letter. -/
def takeLength : List Char → LengthModifier × List Char
  | 'h' :: 'h' :: rest => (.hh, rest)
  | 'h' :: rest        => (.h, rest)
  | 'l' :: 'l' :: rest => (.ll, rest)
  | 'l' :: rest        => (.l, rest)
  | 'z' :: rest        => (.z, rest)
  | 't' :: rest        => (.t, rest)
  | 'j' :: rest        => (.j, rest)
  | 'L' :: rest        => (.bigL, rest)
  | text               => (.absent, text)

/-! ### Directives -/

/-- Reads a directive from the text after its `%`, and returns it with the rest of that text. -/
def read (text : List Char) : Except (Option Char) (Directive × List Char) :=
  let (flags, text) := takeFlags text
  let (width, text) := takeWidth text
  let (precision, text) := takePrecision text
  let (length, text) := takeLength text
  match text with
  | []        => .error none
  | c :: rest =>
    match Conversion.ofLetter? c with
    | some conversion => .ok (⟨flags, width, precision, length, conversion⟩, rest)
    | none            => .error (some c)

/-! ### What is left is an end of the text -/

theorem takeChar_suffix (c : Char) (text : List Char) : (takeChar c text).2 <:+ text := by
  unfold takeChar
  split
  · split
    · exact List.suffix_cons _ _
    · exact List.suffix_rfl
  · exact List.suffix_rfl

theorem takeFlags_suffix (text : List Char) : (takeFlags text).2 <:+ text :=
  (((takeChar_suffix _ _).trans (takeChar_suffix _ _)).trans (takeChar_suffix _ _)).trans
    (takeChar_suffix _ _)

theorem takeNumber_suffix (text : List Char) : (takeNumber text).2 <:+ text := by
  unfold takeNumber
  split
  · exact List.suffix_rfl
  · exact List.dropWhile_suffix _

theorem takeWidth_suffix (text : List Char) : (takeWidth text).2 <:+ text := by
  have hc := takeChar_suffix '*' text
  have hn := takeNumber_suffix text
  unfold takeWidth
  split
  · simp_all
  · split <;> simp_all

theorem takePrecision_suffix (text : List Char) : (takePrecision text).2 <:+ text := by
  have hc := takeChar_suffix '.' text
  unfold takePrecision
  split
  · exact List.suffix_rfl
  · rename_i rest h
    have hw := takeWidth_suffix rest
    rw [h] at hc
    split <;> simp_all <;> exact hw.trans hc

theorem takeLength_suffix (text : List Char) : (takeLength text).2 <:+ text := by
  unfold takeLength
  split <;> simp [List.suffix_cons_iff]

/-- Reading takes at least the conversion and leaves an end of the text. -/
theorem exists_of_read {text rest : List Char} {d : Directive}
    (h : read text = .ok (d, rest)) : ∃ c spelling, text = spelling ++ c :: rest := by
  have hs := (((takeLength_suffix _).trans (takePrecision_suffix _)).trans
    (takeWidth_suffix _)).trans (takeFlags_suffix text)
  unfold read at h
  dsimp only at h
  split at h
  · simp at h
  · rename_i c r heq
    split at h
    · simp only [Except.ok.injEq, Prod.mk.injEq] at h
      obtain ⟨spelling, hsp⟩ := hs
      rw [heq] at hsp
      exact ⟨c, spelling, by rw [← h.2, hsp]⟩
    · simp at h

theorem length_lt_of_read {text rest : List Char} {d : Directive}
    (h : read text = .ok (d, rest)) : rest.length < text.length := by
  obtain ⟨c, spelling, rfl⟩ := exists_of_read h
  simp
  omega

end Directive

end TypedFormat
