import TypedFormat.Json.Value

/-!
# JSON trees

A tree is the structure of a JSON text. What it has to be depends on the place where it is used:
in parts that nobody reads, a number may be out of range, and the escapes of a string may pair
surrogates wrongly. Such a number has no value and such a string no text.
-/

namespace TypedFormat.Json

/-- A number as it is read: an integer of 64 bits, with or without a sign, or else a floating point
number. -/
inductive Number where
  | integer (value : Int)
  | float (value : Binary64)
deriving DecidableEq

/-- The least and the greatest integers of 64 bits. -/
def leastInteger : Int := Int64.minValue.toInt

@[inherit_doc leastInteger]
def greatestInteger : Int := (UInt64.size - 1 : Nat)

/-- The greatest depth to which a value of any kind nests. -/
def depthLimit : Nat := 127

inductive Tree where
  | null
  | boolean (value : Bool)
  | number (value : Option Number)
  | string (value : Option String)
  | array (items : List Tree)
  | object (members : List (Option String × Tree))

/-! ### Trees of values -/

/-- A floating point number as a tree. There is none for what is not finite, which is null. -/
def floatTree (x : Binary64) : Tree :=
  if x.isFinite then .number (some (.float x)) else .null

/-- The value of a member is smaller than the list of the members. -/
theorem sizeOf_member_lt {members : List (String × Value)} {member : String × Value}
    (h : member ∈ members) : sizeOf member.2 < sizeOf members := by
  have hlt := List.sizeOf_lt_of_mem h
  obtain ⟨key, value⟩ := member
  simp only [Prod.mk.sizeOf_spec] at hlt
  dsimp only
  omega

/-- The structure of a value. -/
def Value.tree : Value → Tree
  | .null           => .null
  | .boolean b      => .boolean b
  | .integer v      => .number (some (.integer v))
  | .float x        => floatTree x
  | .string s       => .string (some s)
  | .array items    => .array (items.map fun item => item.tree)
  | .object members => .object (members.map fun member => (some member.1, member.2.tree))
decreasing_by
  · have := List.sizeOf_lt_of_mem ‹_›
    simp only [array.sizeOf_spec]
    omega
  · have := sizeOf_member_lt ‹_›
    simp only [object.sizeOf_spec]
    omega

end TypedFormat.Json
