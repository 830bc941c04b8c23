import TypedFormat.Text.Lines
import TypedFormat.Text.Quoted

/-!
# Differences

Two texts compared line by line. For every line number at which they differ there is a hunk: a
head that gives the number, and then the line of each text that has one, quoted, so that no line
of a text can be taken for part of the difference.
-/

namespace TypedFormat.Difference

/-- The text for two texts that are equal. -/
def identical : List Char :=
  "[identical]".toList

/-- The lines before the first hunk. -/
def header : List Char :=
  "--- expected\n+++ actual\n".toList

/-- One side of a hunk: a mark and the quoted line, if there is one. -/
def side (mark : Char) : Option (List Char) → List Char
  | none      => []
  | some line => mark :: (Quoted.text line ++ ['\n'])

/-- The hunk at a line number. -/
def hunk (number : Nat) (expected actual : Option (List Char)) : List Char :=
  "@@ line ".toList ++ Nat.toDigits 10 number ++ " @@\n".toList
    ++ side '-' expected ++ side '+' actual

/-- The hunks of two lists of lines, of which the first have a given number. -/
def hunks (number : Nat) : List (List Char) → List (List Char) → List Char
  | [],      []      => []
  | e :: es, []      => hunk number (some e) none ++ hunks (number + 1) es []
  | [],      a :: as => hunk number none (some a) ++ hunks (number + 1) [] as
  | e :: es, a :: as =>
    (if e = a then [] else hunk number (some e) (some a)) ++ hunks (number + 1) es as

/-- The difference between an expected and an actual text. -/
def between (expected actual : List Char) : List Char :=
  if expected = actual then identical
  else header ++ hunks 1 (splitLines expected) (splitLines actual)

end TypedFormat.Difference
