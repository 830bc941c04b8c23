import TypedFormat.Json.Tree

/-!
# Packages for JSON

A package writes values as texts, reads texts as trees, and reads parts of trees: what a record, a
variant, a list or a number is there is for the package to say. The program says which fields its
records have, and which of them may be left out. Any package can be used.
-/

namespace TypedFormat.Json

class Package where
  /-- A value on one line. A value can always be written, since all its keys are strings. -/
  compact : Value → String
  /-- A value with an item to a line. -/
  pretty : Value → String
  /-- The structure of a text, if that is JSON. -/
  tree? : String → Option Tree
  /-- A tree as a value that may be of any kind. -/
  value? : Tree → Option Value
  string? : Tree → Option String
  boolean? : Tree → Option Bool
  /-- An integer between two bounds. -/
  integer? : Int → Int → Tree → Option Int
  float? : Tree → Option Binary64
  /-- A string of one character. -/
  character? : Tree → Option Char
  /-- A list of items that are all read in the same way. -/
  list? {α : Type} : (Tree → Option α) → Tree → Option (List α)
  /-- A pair, of which each part is read in its own way. -/
  pair? {α β : Type} : (Tree → Option α) → (Tree → Option β) → Tree → Option (α × β)
  /-- Something that may be null. -/
  optional? {α : Type} : (Tree → Option α) → Tree → Option (Option α)
  /-- The name of a constructor that has no content. -/
  constant? : Tree → Option String
  /-- The name of a constructor, with its content. -/
  variant? : Tree → Option (String × Tree)
  /-- The fields of a record with these names, in this order; a field may be missing. -/
  fields? : List String → Tree → Option (List (Option Tree))

variable [Package]

/-- A field of a record that is none if it is missing or null. -/
def optionalField? (read? : Tree → Option α) (field : Option Tree) : Option (Option α) :=
  field.elim (some none) (Package.optional? read?)

end TypedFormat.Json
