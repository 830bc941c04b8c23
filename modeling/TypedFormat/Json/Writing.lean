import TypedFormat.Json.Value
import TypedFormat.Number.Numeral
import TypedFormat.Number.Shortest

/-!
# Writing JSON

The text of a value. `Value.writeAt` writes a value compactly or with one item to a line.
-/

namespace TypedFormat.Json

/-! ### Strings -/

/-- A character within a string. Quotes, backslashes and control characters are escaped. -/
def escape (c : Char) : List Char :=
  match c with
  | '"'    => ['\\', '"']
  | '\\'   => ['\\', '\\']
  | '\x08' => ['\\', 'b']
  | '\x0c' => ['\\', 'f']
  | '\n'   => ['\\', 'n']
  | '\r'   => ['\\', 'r']
  | '\t'   => ['\\', 't']
  | c      =>
    if c < ' ' then
      ['\\', 'u', '0', '0', Nat.digitChar (c.toNat / 16), Nat.digitChar (c.toNat % 16)]
    else [c]

/-- A string between its quotes. -/
def quote (s : List Char) : List Char :=
  '"' :: (s.flatMap escape ++ ['"'])

/-! ### Numbers -/

/-- Whether a decimal with this power of ten in front is written in positions. -/
def isPositional (order : Int) : Bool :=
  -5 ≤ order && order ≤ 15

/-- A decimal with one digit before the point and an exponent with its sign. -/
def scientific (d : Decimal) : List Char :=
  let mantissa :=
    match d.digits with
    | []            => []
    | [digit]       => [digit]
    | digit :: more => digit :: '.' :: more
  mantissa ++ 'e' :: ((if d.order < 0 then '-' else '+') :: Nat.toDigits 10 d.order.natAbs)

/-- A positive decimal as a number that cannot be taken for an integer. -/
def decimalText (d : Decimal) : List Char :=
  if isPositional d.order then
    if 0 ≤ d.exponent then d.positional ++ ['.', '0'] else d.positional
  else scientific d

/-- A floating point number in the fewest digits that read back, an exact tie going to the even
digit. There is no text for infinities and for what is not a number, which are null. -/
def floatText (x : Binary64) : List Char :=
  if x.isFinite then
    let magnitude :=
      if x.magnitudeBits = 0 then ['0', '.', '0'] else decimalText (x.shortest .even)
    if x.negative then '-' :: magnitude else magnitude
  else "null".toList

/-! ### Values -/

/-- How a text is spaced. -/
inductive Spacing where
  | compact
  | pretty

namespace Spacing

/-- What stands before an item or a closing bracket at some depth. -/
def newline : Spacing → Nat → List Char
  | .compact, _     => []
  | .pretty,  depth => '\n' :: List.replicate (2 * depth) ' '

/-- What stands between a key and its value. -/
def colon : Spacing → List Char
  | .compact => [':']
  | .pretty  => [':', ' ']

end Spacing

mutual

/-- A value's text, `depth` brackets deep. -/
def Value.writeAt (spacing : Spacing) (depth : Nat) : Value → List Char
  | .null                 => "null".toList
  | .boolean b            => (if b then "true" else "false").toList
  | .integer v            => integerText v
  | .float x              => floatText x
  | .string s             => quote s.toList
  | .array []             => ['[', ']']
  | .array (item :: rest) =>
    '[' :: (spacing.newline (depth + 1) ++ item.writeAt spacing (depth + 1)
      ++ writeItems spacing (depth + 1) rest ++ spacing.newline depth ++ [']'])
  | .object []            => ['\x7b', '\x7d']
  | .object ((key, value) :: rest) =>
    '\x7b' :: (spacing.newline (depth + 1) ++ quote key.toList ++ spacing.colon
      ++ value.writeAt spacing (depth + 1)
      ++ writeMembers spacing (depth + 1) rest ++ spacing.newline depth ++ ['\x7d'])

/-- The items after the first, each with the comma before it. -/
def writeItems (spacing : Spacing) (depth : Nat) : List Value → List Char
  | []           => []
  | item :: rest =>
    ',' :: (spacing.newline depth ++ item.writeAt spacing depth ++ writeItems spacing depth rest)

/-- The members after the first, each with the comma before it. -/
def writeMembers (spacing : Spacing) (depth : Nat) : List (String × Value) → List Char
  | []                   => []
  | (key, value) :: rest =>
    ',' :: (spacing.newline depth ++ quote key.toList ++ spacing.colon
      ++ value.writeAt spacing depth ++ writeMembers spacing depth rest)

end

namespace Value

/-- A value on one line, without spaces. -/
def compactText (v : Value) : String :=
  String.ofList (v.writeAt .compact 0)

/-- A value with an item to a line, indented by two spaces a level. -/
def prettyText (v : Value) : String :=
  String.ofList (v.writeAt .pretty 0)

end Value

end TypedFormat.Json
