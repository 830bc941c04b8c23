import Mathlib.Tactic.Common
import TypedFormat.Directive.Reader
import TypedFormat.Text.Utf8

/-!
# The grammar of directives

A `Wording` is a directive as it is written, part by part, and its `spelling` is a word of the
grammar

    ["-"] ["+"] ["#"] ["0"] [digits | "*"] ["." [digits | "*"]] [hh|h|ll|l|z|t|j|L] conversion

A word with a zero before its width can be taken apart in two ways. In the way that counts, the
zero is the flag (`Wording.ZeroFlagFirst`), and `Wording.directive` is what the word then says.

Reading a directive finds a word of the grammar at the front of the text if there is one, and
there is at most one.
-/

namespace TypedFormat

open Directive

/-! ### Parts -/

/-- A character that is written or left out. -/
def mark (c : Char) (written : Bool) : List Char :=
  if written then [c] else []

/-- Which flags are written. -/
structure FlagMarks where
  minus : Bool
  plus : Bool
  hash : Bool
  zero : Bool

namespace FlagMarks

def spelling (m : FlagMarks) : List Char :=
  mark '-' m.minus ++ (mark '+' m.plus ++ (mark '#' m.hash ++ mark '0' m.zero))

/-- The flags that are set. A minus overrides a zero. -/
def flags (m : FlagMarks) : Flags :=
  ⟨m.minus, m.plus, m.hash, m.zero && !m.minus⟩

end FlagMarks

/-- Digits in a row, at least one. -/
structure DigitRun where
  digits : List Char
  ne_nil : digits ≠ []
  isDigit : ∀ c ∈ digits, c.isDigit = true

/-- The number that the digits write. -/
def DigitRun.value (run : DigitRun) : Nat :=
  Nat.ofDigitChars 10 run.digits 0

/-- How a size is written: not at all, with digits, or with a star. -/
inductive SizeWording where
  | absent
  | digits (run : DigitRun)
  | star

namespace SizeWording

def spelling : SizeWording → List Char
  | .absent     => []
  | .digits run => run.digits
  | .star       => ['*']

/-- The size that is asked for. Numbers past 64 bits count as the greatest of 64 bits. -/
def size : SizeWording → Size
  | .absent     => .absent
  | .digits run => .literal (min run.value (UInt64.size - 1))
  | .star       => .fromArgument

@[simp] lemma size_eq_fromArgument_iff {w : SizeWording} : w.size = .fromArgument ↔ w = .star := by
  cases w <;> simp [size]

end SizeWording

/-- How a precision is written: not at all, or as a point with what follows it. -/
inductive PrecisionWording where
  | absent
  | point (size : SizeWording)

namespace PrecisionWording

def spelling : PrecisionWording → List Char
  | .absent  => []
  | .point w => '.' :: w.spelling

/-- The precision that is asked for, which is zero after a bare point. -/
def size : PrecisionWording → Size
  | .absent        => .absent
  | .point .absent => .literal 0
  | .point w       => w.size

end PrecisionWording

/-! ### Words -/

/-- A directive as it is written. -/
structure Wording where
  marks : FlagMarks
  width : SizeWording
  precision : PrecisionWording
  length : LengthModifier
  conversion : Conversion

namespace Wording

/-- What is written between the `%` and the end of the directive. -/
def spelling (w : Wording) : List Char :=
  w.marks.spelling ++ (w.width.spelling ++ (w.precision.spelling ++
    (w.length.spelling ++ [w.conversion.letter])))

/-- What the parts say. -/
def directive (w : Wording) : Directive :=
  ⟨w.marks.flags, w.width.size, w.precision.size, w.length, w.conversion⟩

/-- A zero right after the other flags is the zero flag, and later digits are the width. -/
def ZeroFlagFirst (w : Wording) : Prop :=
  w.marks.zero = false → w.width.spelling.head? ≠ some '0'

end Wording

/-- The words of the grammar. -/
def Directive.IsWord (word : List Char) : Prop :=
  ∃ w : Wording, w.spelling = word

/-! ### The zero flag first -/

namespace SizeWording

/-- Whether the first character is a zero. -/
def beginsWithZero (w : SizeWording) : Bool :=
  w.spelling.head? == some '0'

/-- The width that digits write, if there are any. -/
def ofDigits : (digits : List Char) → (∀ c ∈ digits, c.isDigit = true) → SizeWording
  | [],            _       => .absent
  | digit :: more, hdigits => .digits ⟨digit :: more, List.cons_ne_nil digit more, hdigits⟩

/-- The width behind a zero in front of it. -/
def dropZero : SizeWording → SizeWording
  | .digits run =>
    if run.digits.head? = some '0' then
      ofDigits run.digits.tail fun c hc => run.isDigit c (List.mem_of_mem_tail hc)
    else .digits run
  | w => w

lemma dropZero_of_not_beginsWithZero {w : SizeWording} (h : w.beginsWithZero = false) :
    w.dropZero = w := by
  cases w with
  | absent => rfl
  | star => rfl
  | digits run => exact if_neg (beq_eq_false_iff_ne.mp h)

/-- A width that begins with a zero has digits, and what is left of them is the width behind it. -/
lemma dropZero_of_beginsWithZero {w : SizeWording} (h : w.beginsWithZero = true) :
    ∃ run, w = .digits run ∧ run.digits = '0' :: w.dropZero.spelling ∧
      (w.dropZero = .absent ∨ ∃ rest, w.dropZero = .digits rest) := by
  cases w with
  | absent => cases h
  | star => cases h
  | digits run =>
    obtain ⟨digits, hne, hdigit⟩ := run
    obtain ⟨more, rfl⟩ := List.head?_eq_some_iff.mp (beq_iff_eq.mp h)
    cases more with
    | nil => exact ⟨_, rfl, rfl, .inl rfl⟩
    | cons c more => exact ⟨_, rfl, rfl, .inr ⟨_, rfl⟩⟩

lemma dropZero_ne_star {w : SizeWording} (h : w ≠ .star) : w.dropZero ≠ .star := by
  cases hzero : w.beginsWithZero with
  | false => rwa [dropZero_of_not_beginsWithZero hzero]
  | true =>
    obtain ⟨-, -, -, hrest | ⟨rest, hrest⟩⟩ := dropZero_of_beginsWithZero hzero
    · exact hrest ▸ SizeWording.noConfusion
    · exact hrest ▸ SizeWording.noConfusion

lemma mark_append_dropZero (w : SizeWording) :
    mark '0' w.beginsWithZero ++ w.dropZero.spelling = w.spelling := by
  cases hzero : w.beginsWithZero with
  | false =>
    rw [dropZero_of_not_beginsWithZero hzero]
    rfl
  | true =>
    obtain ⟨run, rfl, hdigits, -⟩ := dropZero_of_beginsWithZero hzero
    exact hdigits.symm

end SizeWording

namespace Wording

/-- The wording with the same spelling in which the zero flag comes first: a zero in front of the width
is the flag, if there is none yet. -/
def canonical (w : Wording) : Wording :=
  { w with
    marks := { w.marks with zero := w.marks.zero || w.width.beginsWithZero }
    width := if w.marks.zero then w.width else w.width.dropZero }

lemma zeroFlagFirst_canonical (w : Wording) : w.canonical.ZeroFlagFirst := by
  intro hzero
  obtain ⟨hmark, hbegins⟩ := Bool.or_eq_false_iff.mp hzero
  simp only [canonical, hmark, SizeWording.dropZero_of_not_beginsWithZero hbegins]
  exact beq_eq_false_iff_ne.mp hbegins

lemma spelling_canonical (w : Wording) : w.canonical.spelling = w.spelling := by
  obtain ⟨⟨minus, plus, hash, zero⟩, width, precision, length, conversion⟩ := w
  cases zero with
  | true => rfl
  | false =>
    have hmark : mark '0' false = [] := rfl
    simp [canonical, spelling, FlagMarks.spelling, hmark, ← width.mark_append_dropZero]

lemma width_canonical_ne_star {w : Wording} (h : w.width ≠ .star) : w.canonical.width ≠ .star := by
  simp only [canonical]
  split_ifs
  · exact h
  · exact SizeWording.dropZero_ne_star h

/-- Every word has a wording in which the zero flag comes first. -/
lemma exists_zeroFlagFirst (w : Wording) :
    ∃ v : Wording, v.ZeroFlagFirst ∧ v.spelling = w.spelling :=
  ⟨w.canonical, w.zeroFlagFirst_canonical, w.spelling_canonical⟩

end Wording

/-! ### Where a part may begin

The parts stand in a fixed order, and the first character of a part tells which part it is, the
zero flag apart. So a stage that is done stops in front of any later part. -/

/-- The place in the order of the part that a character begins: flags, width, precision, and
then the length modifier with the conversion. A zero counts as a digit of the width. -/
def place (c : Char) : Nat :=
  if c = '-' then 0
  else if c = '+' then 1
  else if c = '#' then 2
  else if c.isDigit || c = '*' then 3
  else if c = '.' then 4
  else 5

/-- The text begins with a part at place `n` or later, or is empty. -/
def BeginsFrom (n : Nat) (text : List Char) : Prop :=
  ∀ c, text.head? = some c → n ≤ place c

namespace BeginsFrom

variable {n m : Nat} {s t : List Char}

lemma mono (h : BeginsFrom n t) (hmn : m ≤ n) : BeginsFrom m t :=
  fun c hc => Nat.le_trans hmn (h c hc)

lemma append (hs : BeginsFrom n s) (ht : BeginsFrom n t) : BeginsFrom n (s ++ t) := by
  intro c hc
  cases s with
  | nil => exact ht c hc
  | cons x s => exact hs c hc

lemma head?_ne (h : BeginsFrom n t) {c : Char} (hc : place c < n) : t.head? ≠ some c := by
  intro ht
  exact absurd (h c ht) (Nat.not_le.mpr hc)

lemma isDigit_eq_false (h : BeginsFrom 4 t) {c : Char} (hc : t.head? = some c) :
    c.isDigit = false := by
  have hplace := h c hc
  by_contra hd
  rw [Bool.not_eq_false] at hd
  have h3 : place c ≤ 3 := by
    unfold place
    split_ifs <;> simp_all
  omega

end BeginsFrom

lemma beginsFrom_nil (n : Nat) : BeginsFrom n [] := by
  intro c hc
  simp at hc

lemma beginsFrom_cons {n : Nat} {c : Char} {text : List Char} :
    BeginsFrom n (c :: text) ↔ n ≤ place c := by
  simp [BeginsFrom]

lemma beginsFrom_mark (c : Char) (written : Bool) : BeginsFrom (place c) (mark c written) := by
  cases written with
  | false => exact beginsFrom_nil _
  | true => exact beginsFrom_cons.mpr (Nat.le_refl _)

lemma SizeWording.beginsFrom_spelling (w : SizeWording) : BeginsFrom 3 w.spelling := by
  cases w with
  | absent => exact beginsFrom_nil 3
  | star => exact beginsFrom_cons.mpr (by decide)
  | digits run =>
    intro c hc
    have hd := run.isDigit c (List.mem_of_mem_head? hc)
    unfold place
    split_ifs <;> simp_all

lemma PrecisionWording.beginsFrom_spelling (w : PrecisionWording) : BeginsFrom 4 w.spelling := by
  cases w with
  | absent => exact beginsFrom_nil 4
  | point w => exact beginsFrom_cons.mpr (by decide)

lemma LengthModifier.beginsFrom_spelling (length : LengthModifier) :
    BeginsFrom 5 length.spelling := by
  cases length with
  | absent => exact beginsFrom_nil 5
  | _ => exact beginsFrom_cons.mpr (by decide)

lemma Conversion.place_letter (c : Conversion) : place c.letter = 5 := by
  cases c <;> decide

end TypedFormat
