import TypedFormat.Json.Package

/-!
# Laws of packages for JSON

What is taken for granted of a package, as it is documented for the one that the program is made
with: the texts of values (`TextLaws`), the parts of trees (`PartLaws`) and values of any kind
(`ValueLaws`). Nothing is taken for granted of floating point numbers, for which the text that is
written need not be read as the same number; where they are to come back, this is said of each of them
(`ReadsBack`).
-/

namespace TypedFormat.Json

open Package

/-- The numbers in a value. -/
def Value.numbers : Value → List Number
  | .integer v      => [.integer v]
  | .float x        => [.float x]
  | .array items    => items.flatMap fun item => item.numbers
  | .object members => members.flatMap fun member => member.2.numbers
  | _               => []
decreasing_by
  · have := List.sizeOf_lt_of_mem ‹_›
    simp only [array.sizeOf_spec]
    omega
  · have := sizeOf_member_lt ‹_›
    simp only [object.sizeOf_spec]
    omega

/-- A value that can stand free and nests at most `depth` deep: its integers have 64 bits, its floating
point numbers are finite, and its objects are sorted by key, with no key twice. -/
inductive Value.IsFree : Nat → Value → Prop where
  | null {depth : Nat} : IsFree depth .null
  | boolean {depth : Nat} (b : Bool) : IsFree depth (.boolean b)
  | integer {depth : Nat} {v : Int} (hleast : leastInteger ≤ v)
      (hgreatest : v ≤ greatestInteger) : IsFree depth (.integer v)
  | float {depth : Nat} {x : Binary64} (hx : x.isFinite = true) : IsFree depth (.float x)
  | string {depth : Nat} (s : String) : IsFree depth (.string s)
  | array {depth : Nat} {items : List Value} (hitems : ∀ item ∈ items, IsFree depth item) :
      IsFree (depth + 1) (.array items)
  | object {depth : Nat} {members : List (String × Value)}
      (hsorted : (members.map Prod.fst).Pairwise (· < ·))
      (hmembers : ∀ member ∈ members, IsFree depth member.2) : IsFree (depth + 1) (.object members)

variable [Package]

/-! ### Texts -/

/-- The text that is written for a floating point number is read as that number. -/
def ReadsBack (x : Binary64) : Prop :=
  tree? (compact (.float x)) = some (.number (some (.float x)))

/-- A number that comes back where it is written: an integer of 64 bits, or a floating point number
that is read back. What is not finite is written as null and does not have to come back. -/
def Number.ComesBack : Number → Prop
  | .integer v => leastInteger ≤ v ∧ v ≤ greatestInteger
  | .float x   => x.isFinite = true → ReadsBack x

/-- A value of which all numbers come back. -/
def Value.ComesBack (v : Value) : Prop :=
  ∀ n ∈ v.numbers, n.ComesBack

structure TextLaws : Prop where
  /-- A value on one line is read as it was written, if its numbers come back. -/
  tree?_compact {v : Value} (h : v.ComesBack) : tree? (compact v) = some v.tree
  /-- So is a value with an item to a line. -/
  tree?_pretty {v : Value} (h : v.ComesBack) : tree? (pretty v) = some v.tree
  /-- In strings control characters are escaped, and between tokens a compact text has no spaces. -/
  control (v : Value) : ∀ c ∈ (compact v).toList, ' ' ≤ c
  /-- The text of an object begins with its brace. -/
  head?_pretty (members : List (String × Value)) :
    (pretty (.object members)).toList.head? = some '\x7b'
  /-- The empty text is not JSON. -/
  tree?_empty : tree? "" = none

/-! ### Parts -/

structure PartLaws : Prop where
  /-- Only a string is read as a string. -/
  string?_eq_some_iff {tree : Tree} {s : String} : string? tree = some s ↔ tree = .string (some s)
  boolean?_boolean (b : Bool) : boolean? (.boolean b) = some b
  /-- An integer is read if it is within the bounds. -/
  integer?_integer {least greatest v : Int} (hleast : least ≤ v) (hgreatest : v ≤ greatest) :
    integer? least greatest (.number (some (.integer v))) = some v
  float?_float (x : Binary64) : float? (.number (some (.float x))) = some x
  /-- Null is no number. -/
  float?_null : float? .null = none
  /-- A character is written as a string. -/
  character?_string (c : Char) : character? (.string (some c.toString)) = some c
  /-- The items of an array are all read, in their order. -/
  list?_array {α : Type} (item? : Tree → Option α) (items : List Tree) :
    list? item? (.array items) = items.mapM item?
  /-- A pair is an array of its two parts. -/
  pair?_array {α β : Type} (first? : Tree → Option α) (second? : Tree → Option β)
    (first second : Tree) :
    pair? first? second? (.array [first, second]) = (do some (← first? first, ← second? second))
  /-- What is missing is null. -/
  optional?_null {α : Type} (read? : Tree → Option α) : optional? read? .null = some none
  /-- Whatever else there is must not be missing. -/
  optional?_of_ne {α : Type} (read? : Tree → Option α) {tree : Tree} (h : tree ≠ .null) :
    optional? read? tree = some <$> read? tree
  /-- A constructor without content is its name. -/
  constant?_string (name : String) : constant? (.string (some name)) = some name
  /-- Any other constructor is an object with one member. -/
  variant?_object (name : String) (content : Tree) :
    variant? (.object [(some name, content)]) = some (name, content)
  /-- The fields of a record are the members of an object, whatever other members it has, in any
  order. -/
  fields?_object (names : List String) {members : List (String × Tree)}
    (h : (members.map Prod.fst).Nodup) :
    fields? names (.object (members.map fun member => (some member.1, member.2)))
      = some (names.map fun name => members.lookup name)

/-! ### Values of any kind -/

structure ValueLaws : Prop where
  /-- A value is read as it is. -/
  value?_tree {v : Value} (h : v.IsFree depthLimit) : value? v.tree = some v
  /-- A value that is read is sorted, its numbers are finite, and it does not nest too deep. -/
  isFree {tree : Tree} {v : Value} (h : value? tree = some v) : v.IsFree depthLimit
  /-- An object is read if its members nest one less deep. It need not be sorted. -/
  exists_value?_object {members : List (String × Value)}
    (h : ∀ member ∈ members, member.2.IsFree (depthLimit - 1)) :
    ∃ values, value? (Value.object members).tree = some (.object values)
  /-- Only an object is read as an object. Of its members with one key the last counts. -/
  lookup_of_value? {tree : Tree} {values : List (String × Value)}
    (h : value? tree = some (.object values)) :
    ∃ members, tree = .object members ∧
      ∀ key, values.lookup key = (members.reverse.lookup (some key)).bind value?

/-- All of these laws. -/
structure Laws : Prop extends TextLaws, PartLaws, ValueLaws

end TypedFormat.Json
