import TypedFormat.Argument
import TypedFormat.Json.Package
import TypedFormat.Number.Decimal
import TypedFormat.Text.Blank

/-!
# Values in cases

The values that a case or a command line gives for arguments. In JSON a value is an object whose
one key is its tag; on a command line the tag is a letter before a colon, and a text without such
a tag stands for itself. Signed and unsigned integers are kept apart, though both are integers to
a template.
-/

namespace TypedFormat

inductive CaseValue where
  | int (value : Int64)
  | uint (value : UInt64)
  | float (value : Binary64)
  | text (value : String)
  | char (value : Char)
  | bool (value : Bool)
  | raw (bytes : List UInt8)
deriving DecidableEq

namespace CaseValue

/-- The argument that a value stands for. -/
def argument : CaseValue → Argument
  | .int v     => .integer v.toInt
  | .uint v    => .integer v.toNat
  | .float x   => .float x
  | .text s    => .text s
  | .char c    => .character c
  | .bool b    => .boolean b
  | .raw bytes => .raw bytes

/-! ### JSON -/

/-- The key of a value's object. -/
def tag : CaseValue → String
  | .int _   => "int"
  | .uint _  => "uint"
  | .float _ => "float"
  | .text _  => "text"
  | .char _  => "char"
  | .bool _  => "bool"
  | .raw _   => "raw"

/-- What stands under the key. -/
def content : CaseValue → Json.Value
  | .int v     => .integer v.toInt
  | .uint v    => .integer v.toNat
  | .float x   => .float x
  | .text s    => .string s
  | .char c    => .string c.toString
  | .bool b    => .boolean b
  | .raw bytes => .ofList (fun b => .integer b.toNat) bytes

def toJson (v : CaseValue) : Json.Value :=
  .object [(v.tag, v.content)]

section

open Json.Package

variable [Json.Package] (tree : Json.Tree)

/-- An integer of 64 bits with a sign. -/
def int64? : Option Int64 :=
  Int64.ofInt <$> integer? Int64.minValue.toInt Int64.maxValue.toInt tree

/-- An integer of 64 bits without a sign. -/
def uint64? : Option UInt64 :=
  (fun v => UInt64.ofNat v.toNat) <$> integer? 0 (UInt64.size - 1 : Nat) tree

/-- A byte as an integer. -/
def byte? : Option UInt8 :=
  (fun v => UInt8.ofNat v.toNat) <$> integer? 0 255 tree

def ofTree? : Option CaseValue := do
  let (tag, content) ← variant? tree
  match tag with
  | "int"   => .int <$> int64? content
  | "uint"  => .uint <$> uint64? content
  | "float" => .float <$> float? content
  | "text"  => .text <$> string? content
  | "char"  => .char <$> character? content
  | "bool"  => .bool <$> boolean? content
  | "raw"   => .raw <$> list? byte? content
  | _       => none

end

/-! ### Command lines -/

/-- The number that a run of digits writes, if it is one. -/
def natural? (text : List Char) : Option Nat :=
  if text ≠ [] ∧ text.all Char.isDigit then some (Nat.ofDigitChars 10 text 0) else none

/-- An integer with an optional sign, within the range of 64 bits. -/
def readInt? (text : List Char) : Option Int64 := do
  let v : Int ←
    match text with
    | '-' :: rest => (fun (n : Nat) => -(n : Int)) <$> natural? rest
    | '+' :: rest => Int.ofNat <$> natural? rest
    | text        => Int.ofNat <$> natural? text
  if Int64.minValue.toInt ≤ v ∧ v ≤ Int64.maxValue.toInt then some (.ofInt v) else none

/-- An integer with an optional plus sign, within the range of 64 bits. -/
def readUint? (text : List Char) : Option UInt64 := do
  let n ←
    match text with
    | '+' :: rest => natural? rest
    | text        => natural? text
  if n < UInt64.size then some (.ofNat n) else none

/-- The exponent of a decimal: nothing, or a letter and an integer. -/
def readExponent? : List Char → Option Int
  | []                         => some 0
  | 'e' :: rest | 'E' :: rest  =>
    match rest with
    | '-' :: rest => (fun (n : Nat) => -(n : Int)) <$> natural? rest
    | '+' :: rest => Int.ofNat <$> natural? rest
    | rest        => Int.ofNat <$> natural? rest
  | _                          => none

/-- A decimal with digits on at least one side of an optional point. -/
def readDecimal? (text : List Char) : Option Decimal := do
  let whole := text.takeWhile Char.isDigit
  let rest := text.dropWhile Char.isDigit
  let (fraction, rest) :=
    match rest with
    | '.' :: rest => (rest.takeWhile Char.isDigit, rest.dropWhile Char.isDigit)
    | rest        => ([], rest)
  if whole = [] ∧ fraction = [] then none
  else
    let exponent ← readExponent? rest
    some (Decimal.ofDigits whole fraction exponent)

/-- The magnitude bits of a decimal or of one of the words for what is not finite. -/
def readMagnitude? (text : List Char) : Option Nat :=
  match String.ofList (lowerAscii text) with
  | "inf" | "infinity" => some Binary64.infinityBits
  | "nan"              => some (Binary64.infinityBits + twoTo 51)
  | _                  => Decimal.bits <$> readDecimal? text

/-- A floating point number with an optional sign, rounded to the nearest. -/
def readFloat? (text : List Char) : Option Binary64 :=
  match text with
  | '-' :: rest => Binary64.ofMagnitudeBits true <$> readMagnitude? rest
  | '+' :: rest => Binary64.ofMagnitudeBits false <$> readMagnitude? rest
  | text        => Binary64.ofMagnitudeBits false <$> readMagnitude? text

/-- A text of one character. -/
def readChar? : List Char → Option Char
  | [c] => some c
  | _   => none

def readBool? (text : List Char) : Option Bool :=
  match String.ofList text with
  | "true"  => some true
  | "false" => some false
  | _       => none

/-- A value read by the rule of its tag, or the reason why it cannot be. -/
def tagged (value : α → CaseValue) (read? : List Char → Option α) (reason : String)
    (text : List Char) : Except String CaseValue :=
  match read? text with
  | some v => .ok (value v)
  | none   => .error reason

/-- A value as it is written on a command line. A text that its tag does not fit gives the
reason. -/
def ofNotation (written : String) : Except String CaseValue :=
  let text := written.toList
  match text.takeWhile (· ≠ ':'), text.dropWhile (· ≠ ':') with
  | ['i'], _ :: rest => tagged .int readInt? "expected an integer" rest
  | ['u'], _ :: rest => tagged .uint readUint? "expected an unsigned integer" rest
  | ['f'], _ :: rest => tagged .float readFloat? "expected a float" rest
  | ['c'], _ :: rest => tagged .char readChar? "expected exactly one character" rest
  | ['b'], _ :: rest => tagged .bool readBool? "expected true or false" rest
  | ['s'], _ :: rest => .ok (.text (String.ofList rest))
  | _,     _         => .ok (.text written)

end CaseValue

end TypedFormat
