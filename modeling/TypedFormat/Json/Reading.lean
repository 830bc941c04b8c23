import TypedFormat.Json.Package
import TypedFormat.Json.Token
import TypedFormat.Json.Writing

/-!
# Reading JSON

Trees are built from tokens by a machine that keeps the brackets still open, so there is no limit on
their depth; there is one on the depth of a value that may be of any kind. With what is written in
`Value.writeAt`, this makes a package.
-/

namespace TypedFormat.Json

/-! ### Building trees -/

/-- A bracket that is still open, with what came before the current item, latest first. -/
inductive Frame where
  | array (done : List Tree)
  | object (done : List (Option String × Tree)) (key : Option String)

/-- What may come next, and the open brackets, innermost first. -/
inductive Building where
  /-- A value. -/
  | value (frames : List Frame)
  /-- A value, or the end of an array without items. -/
  | firstItem (frames : List Frame)
  /-- A key, or the end of an object without members. -/
  | firstKey (frames : List Frame)
  /-- A key. -/
  | key (done : List (Option String × Tree)) (frames : List Frame)
  /-- The colon after a key. -/
  | colon (done : List (Option String × Tree)) (key : Option String) (frames : List Frame)
  /-- Whatever follows a complete value. -/
  | complete (tree : Tree) (frames : List Frame)

namespace Building

/-- Takes a token where a value begins. -/
def begin (frames : List Frame) : Token → Option Building
  | .leftBracket => some (.firstItem frames)
  | .leftBrace   => some (.firstKey frames)
  | .null        => some (.complete .null frames)
  | .boolean b   => some (.complete (.boolean b) frames)
  | .number n    => some (.complete (.number n.number?) frames)
  | .string s    => some (.complete (.string s) frames)
  | _            => none

/-- Takes one token. -/
def step : Building → Token → Option Building
  | .value frames,       token         => begin frames token
  | .firstItem frames,   .rightBracket => some (.complete (.array []) frames)
  | .firstItem frames,   token         => begin (.array [] :: frames) token
  | .firstKey frames,    .rightBrace   => some (.complete (.object []) frames)
  | .firstKey frames,    .string k     => some (.colon [] k frames)
  | .key done frames,    .string k     => some (.colon done k frames)
  | .colon done k frames, .colon       => some (.value (.object done k :: frames))
  | .complete tree (.array done :: frames), .comma =>
    some (.value (.array (tree :: done) :: frames))
  | .complete tree (.array done :: frames), .rightBracket =>
    some (.complete (.array (tree :: done).reverse) frames)
  | .complete tree (.object done k :: frames), .comma =>
    some (.key ((k, tree) :: done) frames)
  | .complete tree (.object done k :: frames), .rightBrace =>
    some (.complete (.object ((k, tree) :: done).reverse) frames)
  | _, _ => none

/-- Takes tokens in order. -/
def run : Building → List Token → Option Building
  | building, []            => some building
  | building, token :: rest => (building.step token).bind (run · rest)

/-- The tree that is complete when no bracket is open. -/
def tree? : Building → Option Tree
  | .complete tree [] => some tree
  | _                 => none

end Building

namespace Tree

/-- The tree of a JSON text. -/
def ofText? (text : String) : Option Tree := do
  let tokens ← tokens? text.toList
  let building ← (Building.value []).run tokens
  building.tree?

/-! ### Reading parts -/

/-- The text of a string. -/
def string? : Tree → Option String
  | .string s => s
  | _         => none

def boolean? : Tree → Option Bool
  | .boolean b => some b
  | _          => none

/-- An integer within bounds. -/
def integer? (least greatest : Int) : Tree → Option Int
  | .number (some (.integer v)) => if least ≤ v ∧ v ≤ greatest then some v else none
  | _                           => none

/-- A floating point number, or the one nearest to an integer. -/
def float? : Tree → Option Binary64
  | .number (some (.integer v)) => some (.ofInt v)
  | .number (some (.float x))   => some x
  | _                           => none

/-- A string of one character. -/
def character? (tree : Tree) : Option Char :=
  match (·.toList) <$> tree.string? with
  | some [c] => some c
  | _        => none

/-- The items of an array, each read in the same way. -/
def list? (item? : Tree → Option α) : Tree → Option (List α)
  | .array items => items.mapM item?
  | _            => none

/-- An array of two items, each read in its own way. -/
def pair? {α β : Type} (first? : Tree → Option α) (second? : Tree → Option β) :
    Tree → Option (α × β)
  | .array [first, second] => do some (← first? first, ← second? second)
  | _                      => none

/-- Something that may be null. -/
def optional? (value? : Tree → Option α) : Tree → Option (Option α)
  | .null => some none
  | tree  => some <$> value? tree

/-- A string, or an object with that key alone and null under it. -/
def constant? : Tree → Option String
  | .string name                  => name
  | .object [(some name, .null)]  => some name
  | _                             => none

/-- An object with one member, which stands for a constructor and its content. -/
def variant? : Tree → Option (String × Tree)
  | .object [(some name, content)] => some (name, content)
  | _                              => none

/-- The fields of a record in the order of `names`: an object, of whose other members only the
keys matter, or an array of all the fields. An object may leave fields out and must not repeat
one. -/
def fields? (names : List String) : Tree → Option (List (Option Tree))
  | .array items    =>
    if items.length = names.length then some (items.map some) else none
  | .object members =>
    if members.all fun member => member.1.isSome then
      names.mapM fun name =>
        match members.filter fun member => member.1 == some name with
        | []       => some none
        | [member] => some (some member.2)
        | _        => none
    else none
  | _ => none

/-! ### Free values -/

/-- A number as a value, which is null if the number is not finite. -/
def numberValue? : Number → Option Value
  | .integer v => if leastInteger ≤ v ∧ v ≤ greatestInteger then some (.integer v) else none
  | .float x   => some (if x.isFinite then .float x else .null)

/-- Puts a member in its place among members sorted by key, instead of an earlier one with that
key. -/
def insertMember (key : String) (value : Value) :
    List (String × Value) → List (String × Value)
  | []                 => [(key, value)]
  | (k, v) :: rest     =>
    if key < k then (key, value) :: (k, v) :: rest
    else if key = k then (key, value) :: rest
    else (k, v) :: insertMember key value rest

mutual

/-- A tree as a value, if its strings have texts, its numbers are in range, and it nests at most
`depth` deep. Members are sorted by key, and of two with one key the later stays. -/
def value? (depth : Nat) : Tree → Option Value
  | .null           => some .null
  | .boolean b      => some (.boolean b)
  | .number n       => n.bind numberValue?
  | .string s       => .string <$> s
  | .array items    =>
    match depth with
    | 0         => none
    | depth + 1 => .array <$> values? depth items
  | .object members =>
    match depth with
    | 0         => none
    | depth + 1 => .object <$> members? depth [] members

/-- The items of an array as values. -/
def values? (depth : Nat) : List Tree → Option (List Value)
  | []           => some []
  | item :: rest => do
    let item ← item.value? depth
    let rest ← values? depth rest
    some (item :: rest)

/-- The members of an object as values, put among those that came before. -/
def members? (depth : Nat) (before : List (String × Value)) :
    List (Option String × Tree) → Option (List (String × Value))
  | []                  => some before
  | (key, tree) :: rest => do
    let key ← key
    let value ← tree.value? depth
    members? depth (insertMember key value before) rest

end

end Tree

/-! ### The package -/

/-- The package that writes and reads in this way. -/
@[reducible] def Package.standard : Package where
  compact := Value.compactText
  pretty := Value.prettyText
  tree? := Tree.ofText?
  value? := Tree.value? depthLimit
  string? := Tree.string?
  boolean? := Tree.boolean?
  integer? := Tree.integer?
  float? := Tree.float?
  character? := Tree.character?
  list? := Tree.list?
  pair? := Tree.pair?
  optional? := Tree.optional?
  constant? := Tree.constant?
  variant? := Tree.variant?
  fields? := Tree.fields?

end TypedFormat.Json

namespace TypedFormat.Standard

scoped instance : Json.Package := .standard

end TypedFormat.Standard
