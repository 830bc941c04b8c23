import TypedFormat.Number.Shortest
import TypedFormat.Text.Utf8

/-!
# Arguments

The values that a template is rendered with. An argument is of one of six kinds, and each has a
text of its own, which is what `%s` shows.
-/

namespace TypedFormat

/-- A value handed to a format call. Raw bytes need not be UTF-8. -/
inductive Argument where
  | integer (value : Int)
  | float (value : Binary64)
  | text (value : String)
  | character (value : Char)
  | boolean (value : Bool)
  | raw (bytes : List UInt8)
deriving DecidableEq

namespace Argument

/-- What sort of value an argument is. -/
inductive Kind where
  | integer
  | float
  | text
  | character
  | boolean
  | raw
deriving DecidableEq

/-- The word for a kind in messages. -/
def Kind.name : Kind → String
  | .integer   => "integer"
  | .float     => "float"
  | .text      => "text"
  | .character => "char"
  | .boolean   => "boolean"
  | .raw       => "raw"

def kind : Argument → Kind
  | .integer _   => .integer
  | .float _     => .float
  | .text _      => .text
  | .character _ => .character
  | .boolean _   => .boolean
  | .raw _       => .raw

/-- The text of an argument by itself: floats are as short as reading back allows, and raw bytes
show a replacement character wherever they are not UTF-8. -/
def naturalText : Argument → List Char
  | .integer v   => integerText v
  | .float x     => x.text
  | .text s      => s.toList
  | .character c => [c]
  | .boolean b   => (if b then "true" else "false").toList
  | .raw bytes   => Utf8.lossy bytes

instance : Coe Int Argument := ⟨.integer⟩
instance : Coe Nat Argument := ⟨fun n => .integer n⟩
instance : Coe Binary64 Argument := ⟨.float⟩
instance : Coe String Argument := ⟨.text⟩
instance : Coe Char Argument := ⟨.character⟩
instance : Coe Bool Argument := ⟨.boolean⟩

end Argument

end TypedFormat
