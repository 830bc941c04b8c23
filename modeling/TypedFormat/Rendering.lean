import TypedFormat.Supply

/-!
# Rendering a value

`Layout.show?` shows an argument by the rule of the conversion, if the argument fits it:
integers fit every conversion, `%c` only if they are the number of a character; floats fit `%f`,
characters `%c`, and everything fits `%s`. An argument that does not fit fails the call, or is
leniently shown as `%s` would without a precision. A number for which too many places are asked
cannot be shown at all: there is no failure for that, the call does not return.
-/

namespace TypedFormat

/-- The character with a given number. -/
def scalar? (v : Int) : Option Char :=
  if 0 ≤ v ∧ v.toNat.isValidChar then some (Char.ofNat v.toNat) else none

namespace Layout

/-- An argument laid out by the rule of the conversion, if it fits that. -/
def show? (layout : Layout) (argument : Argument) : Option (List Char) :=
  match layout.conversion, argument with
  | .string,    a            => some (layout.place (layout.text a.naturalText))
  | .signed,    .integer v   => some (layout.place (layout.integer v))
  | .hexLower,  .integer v   => some (layout.place (layout.integer v))
  | .hexUpper,  .integer v   => some (layout.place (layout.integer v))
  | .octal,     .integer v   => some (layout.place (layout.integer v))
  | .float,     .float x     => some (layout.place (layout.float x))
  | .float,     .integer v   => some (layout.place (layout.float (.ofInt v)))
  | .character, .character c => some (layout.place (character c))
  | .character, .integer v   => (scalar? v).map fun c => layout.place (character c)
  | .percent,   _            => some (layout.place percent)
  | _,          _            => none

/-- Whether a number can be written with the places that are asked for. What is not finite has no
places. -/
def canWrite (layout : Layout) (x : Binary64) : Bool :=
  !x.isFinite || layout.precision.getD defaultPlaces ≤ mostPlaces

/-- Whether an argument can be shown by the rule of the conversion, if it fits that. -/
def canShow (layout : Layout) (argument : Argument) : Bool :=
  match layout.conversion, argument with
  | .float, .float x   => layout.canWrite x
  | .float, .integer v => layout.canWrite (.ofInt v)
  | _,      _          => true

/-- An argument's own text, laid out with no regard to the precision. -/
def showNatural (layout : Layout) (argument : Argument) : List Char :=
  layout.place ({ layout with precision := none }.text argument.naturalText)

end Layout

namespace Settled

/-- Whether the value of a settled directive can be shown. -/
def canShow (settled : Settled) : Bool :=
  settled.value.all fun drawn => settled.layout.canShow drawn.argument

/-- The text of a settled directive. -/
def render (policy : Policy) (offset : Nat) (settled : Settled) : Except Failure (List Char) :=
  let layout := settled.layout
  match settled.value with
  | none       => .ok (layout.place Layout.percent)
  | some drawn =>
    match layout.show? drawn.argument, policy with
    | some text, _        => .ok text
    | none,      .lenient => .ok (layout.showNatural drawn.argument)
    | none,      .strict  =>
      .error (.mismatch offset drawn.index (.value layout.conversion) drawn.argument.kind)

end Settled

end TypedFormat
