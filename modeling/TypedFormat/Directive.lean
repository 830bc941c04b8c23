/-!
# Directives

A directive is what follows a `%` in a template: flags, a width, a precision, a length modifier
and a conversion. Every part but the conversion may be left out.
-/

namespace TypedFormat

/-! ### Parts -/

/-- The flags `-`, `+`, `#` and `0`. -/
structure Flags where
  adjustLeft : Bool := false
  showSign : Bool := false
  alternate : Bool := false
  zeroPad : Bool := false
deriving DecidableEq

/-- A width or a precision: left out, written in the directive, or taken from the next
argument where the directive has `*`. -/
inductive Size where
  | absent
  | literal (n : Nat)
  | fromArgument
deriving DecidableEq

/-- A length modifier, which is read and has no effect. -/
inductive LengthModifier where
  | absent
  | hh
  | h
  | l
  | ll
  | z
  | t
  | j
  | bigL
deriving DecidableEq

namespace LengthModifier

def spelling : LengthModifier → List Char
  | .absent => []
  | .hh     => ['h', 'h']
  | .h      => ['h']
  | .l      => ['l']
  | .ll     => ['l', 'l']
  | .z      => ['z']
  | .t      => ['t']
  | .j      => ['j']
  | .bigL   => ['L']

end LengthModifier

/-- The last character of a directive, which says how its value is shown. -/
inductive Conversion where
  | string
  | signed
  | float
  | hexLower
  | hexUpper
  | octal
  | character
  | percent
deriving DecidableEq

namespace Conversion

def letter : Conversion → Char
  | .string    => 's'
  | .signed    => 'd'
  | .float     => 'f'
  | .hexLower  => 'x'
  | .hexUpper  => 'X'
  | .octal     => 'o'
  | .character => 'c'
  | .percent   => '%'

/-- The conversion with a given letter. -/
def ofLetter? : Char → Option Conversion
  | 's' => some .string
  | 'd' => some .signed
  | 'f' => some .float
  | 'x' => some .hexLower
  | 'X' => some .hexUpper
  | 'o' => some .octal
  | 'c' => some .character
  | '%' => some .percent
  | _   => none

/-- Whether the zero flag has an effect. -/
def isNumeric : Conversion → Bool
  | .signed | .float | .hexLower | .hexUpper | .octal => true
  | .string | .character | .percent                   => false

/-- Whether a value is drawn for the conversion. -/
def takesValue : Conversion → Bool
  | .percent => false
  | _        => true

/-- The base in which the conversion writes integers. -/
def radix : Conversion → Nat
  | .hexLower | .hexUpper => 16
  | .octal                => 8
  | _                     => 10

@[simp] theorem ofLetter?_letter (c : Conversion) : ofLetter? c.letter = some c := by
  cases c <;> rfl

theorem letter_of_ofLetter? {x : Char} {c : Conversion} (h : ofLetter? x = some c) :
    c.letter = x := by
  unfold ofLetter? at h
  split at h <;> simp at h <;> subst h <;> rfl

end Conversion

/-! ### Directives -/

structure Directive where
  flags : Flags
  width : Size
  precision : Size
  length : LengthModifier
  conversion : Conversion
deriving DecidableEq

/-- The number of arguments that a size draws. -/
def Size.arity : Size → Nat
  | .fromArgument => 1
  | _             => 0

/-- The number of arguments that a conversion draws. -/
def Conversion.arity (c : Conversion) : Nat :=
  if c.takesValue then 1 else 0

/-- The number of arguments that a directive draws. -/
def Directive.arity (d : Directive) : Nat :=
  d.width.arity + d.precision.arity + d.conversion.arity

end TypedFormat
