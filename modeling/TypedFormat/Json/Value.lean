import TypedFormat.Number.Binary64

/-!
# JSON values

A value is what a JSON text means: numbers are integers or floating point numbers, and an object
lists its members in order.
-/

namespace TypedFormat.Json

inductive Value where
  | null
  | boolean (value : Bool)
  | integer (value : Int)
  | float (value : Binary64)
  | string (value : String)
  | array (items : List Value)
  | object (members : List (String × Value))
deriving Inhabited

namespace Value

/-- A value that may be missing, as null where it is. -/
def ofOption (toValue : α → Value) (value : Option α) : Value :=
  value.elim .null toValue

/-- A list as an array. -/
def ofList (toValue : α → Value) (items : List α) : Value :=
  .array (items.map toValue)

end Value

end TypedFormat.Json
