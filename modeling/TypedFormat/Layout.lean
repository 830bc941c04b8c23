import TypedFormat.Argument
import TypedFormat.Directive

/-!
# Layout

How one value is laid out. A renderer first makes a `Content`, which does not depend on the
width: a lead of sign and base marker, and a body. `Content.justify` then pads it to the width,
on the right, on the left, or with zeros between lead and body.
-/

namespace TypedFormat

/-- A directive's flags and conversion with its sizes settled. -/
structure Layout where
  flags : Flags := {}
  width : Nat := 0
  precision : Option Nat := none
  conversion : Conversion
deriving DecidableEq

/-- The text of a value before padding, and whether zeros may pad it. -/
structure Content where
  lead : List Char
  body : List Char
  zeroFill : Bool
deriving DecidableEq

namespace Content

def size (content : Content) : Nat :=
  content.lead.length + content.body.length

/-- Pads a content to at least `width` characters. -/
def justify (content : Content) (adjustLeft : Bool) (width : Nat) : List Char :=
  let missing := width - content.size
  if adjustLeft then content.lead ++ content.body ++ List.replicate missing ' '
  else if content.zeroFill then content.lead ++ List.replicate missing '0' ++ content.body
  else List.replicate missing ' ' ++ content.lead ++ content.body

theorem length_justify (content : Content) (adjustLeft : Bool) (width : Nat) :
    (content.justify adjustLeft width).length = max width content.size := by
  unfold justify
  split
  · simp [size]; omega
  · split <;> simp [size] <;> omega

end Content

namespace Layout

/-- The number of places of a float where no precision is given. -/
def defaultPlaces : Nat := 6

/-- Whether the flags let zeros pad a number. -/
def zeroFill (layout : Layout) : Bool :=
  layout.flags.zeroPad && !layout.flags.adjustLeft && layout.conversion.isNumeric

/-- A content padded as the layout asks. -/
def place (layout : Layout) (content : Content) : List Char :=
  content.justify layout.flags.adjustLeft layout.width

/-! ### Contents -/

/-- What stands before the digits of an integer that is not zero, in the alternate form. -/
def baseMarker (layout : Layout) : List Char :=
  if layout.flags.alternate then
    match layout.conversion with
    | .octal    => ['0']
    | .hexLower => ['0', 'x']
    | .hexUpper => ['0', 'X']
    | _         => []
  else []

/-- The digits of a magnitude in the base of the conversion. -/
def digits (layout : Layout) (n : Nat) : List Char :=
  let lower := Nat.toDigits layout.conversion.radix n
  if layout.conversion = .hexUpper then lower.map Char.toUpper else lower

/-- The sign of an integer; a plus sign goes with base ten only. -/
def integerSign (layout : Layout) (v : Int) : List Char :=
  if v < 0 then ['-']
  else if layout.flags.showSign && layout.conversion.radix == 10 then ['+']
  else []

/-- An integer. The precision is a least number of digits, and zero with precision zero has no
digits at all. -/
def integer (layout : Layout) (v : Int) : Content where
  lead := integerSign layout v ++ (if v = 0 then [] else layout.baseMarker)
  body :=
    if v = 0 ∧ layout.precision = some 0 then []
    else
      let digits := layout.digits v.natAbs
      List.replicate (layout.precision.getD 1 - digits.length) '0' ++ digits
  zeroFill := layout.zeroFill && layout.precision.isNone

/-- The sign of a float, which negative zero has and what is not a number has not. -/
def floatSign (layout : Layout) (x : Binary64) : List Char :=
  if x.negative && !x.isNaN then ['-']
  else if layout.flags.showSign then ['+']
  else []

/-- A float with as many places as the precision says. -/
def float (layout : Layout) (x : Binary64) : Content :=
  if x.isNaN then ⟨layout.floatSign x, "nan".toList, false⟩
  else if x.isInfinite then ⟨layout.floatSign x, "inf".toList, false⟩
  else
    let places := layout.precision.getD defaultPlaces
    ⟨layout.floatSign x, x.dyadic.fixedPoint places layout.flags.alternate, layout.zeroFill⟩

/-- A text, of which the precision is the greatest number of characters that are kept. -/
def text (layout : Layout) (s : List Char) : Content :=
  ⟨[], layout.precision.elim s s.take, false⟩

/-- A single character. -/
def character (c : Char) : Content :=
  ⟨[], [c], false⟩

/-- The percent sign of a directive such as `%5%`. -/
def percent : Content :=
  ⟨[], ['%'], false⟩

end Layout

end TypedFormat
