/-!
# Lines

A text as its lines: the pieces between its newlines, of which there is always at least one.
-/

namespace TypedFormat

/-- Puts a character in front of lines: a newline begins a new line, and any other character
joins the first one. -/
def consLine (c : Char) : List (List Char) → List (List Char)
  | []            => [[c]]
  | line :: lines => if c = '\n' then [] :: line :: lines else (c :: line) :: lines

/-- The lines of a text. -/
def splitLines (text : List Char) : List (List Char) :=
  text.foldr consLine [[]]

@[simp] theorem splitLines_nil : splitLines [] = [[]] := rfl

@[simp] theorem splitLines_cons (c : Char) (text : List Char) :
    splitLines (c :: text) = consLine c (splitLines text) := rfl

end TypedFormat
