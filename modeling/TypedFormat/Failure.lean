import TypedFormat.Argument
import TypedFormat.Directive
import TypedFormat.Text.Quoted

/-!
# Failures of a format call

Every cause for which a call can fail, with the place in the template where it arose. A failure
ends its call: nothing is delivered.
-/

namespace TypedFormat

/-- The greatest width or precision that is honoured. -/
def fieldLimit : Nat :=
  1048576

/-- What an argument is drawn for: the width or the precision of a directive, or the value that
a conversion shows. -/
inductive Role where
  | width
  | precision
  | value (conversion : Conversion)
deriving DecidableEq

/-- Why a format call failed. Offsets count the bytes of the template before the directive's
`%`, and indices count arguments from zero. -/
inductive Failure where
  /-- The character `found`, or the end of the template, stands where a conversion should. -/
  | malformed (offset : Nat) (found : Option Char)
  /-- The arguments ended before the one at `index`. -/
  | underflow (offset index : Nat)
  /-- The argument at `index` does not fit what it was drawn for. -/
  | mismatch (offset index : Nat) (expected : Role) (found : Argument.Kind)
  /-- A width or a precision is past `fieldLimit`. -/
  | tooLarge (offset : Nat) (role : Role) (requested : Nat)
  /-- The rendering was complete and could not be delivered. -/
  | undelivered (reason : String)
deriving DecidableEq

/-- How a message says what was expected. -/
def Role.description : Role → String
  | .width      => "integer width"
  | .precision  => "integer precision"
  | .value conv => "value for %" ++ conv.letter.toString

/-- How a message names a size that is too large. -/
def Role.sizeName : Role → String
  | .precision        => "precision"
  | .width | .value _ => "width"

namespace Failure

/-- The word for each sort of failure. -/
def kind : Failure → String
  | .malformed ..   => "malformed_directive"
  | .underflow ..   => "argument_underflow"
  | .mismatch ..    => "argument_type_mismatch"
  | .tooLarge ..    => "field_too_large"
  | .undelivered .. => "sink"

/-- A sentence for the reader of a message. -/
def message : Failure → String
  | .malformed offset (some c) =>
    s!"malformed directive at byte {offset}: unsupported conversion "
      ++ String.ofList (Quoted.char c)
  | .malformed offset none =>
    s!"malformed directive at byte {offset}: missing conversion character"
  | .underflow offset index =>
    s!"directive at byte {offset} needs argument #{index}, but only {index} supplied"
  | .mismatch offset index expected found =>
    s!"directive at byte {offset}: argument #{index} is {found.name}, "
      ++ s!"expected {expected.description}"
  | .tooLarge offset role requested =>
    s!"directive at byte {offset}: {role.sizeName} {requested} exceeds the limit of {fieldLimit}"
  | .undelivered reason => s!"sink write failed: {reason}"

end Failure

end TypedFormat
