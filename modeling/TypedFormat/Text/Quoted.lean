import TypedFormat.Text.Unprintable

/-!
# Quoted text

Text as messages show it: between quotes, on one line, with everything that cannot be seen
written out. Which quote is escaped depends on what is quoted: a text escapes `"`, and a single
character `'`.
-/

namespace TypedFormat.Quoted

/-- A number in lower case base sixteen. -/
def hex (n : Nat) : List Char :=
  Nat.toDigits 16 n

/-- One character as it stands between two of the given quotes. -/
def escape (quote c : Char) : List Char :=
  match c with
  | '\x00' => ['\\', '0']
  | '\t'   => ['\\', 't']
  | '\r'   => ['\\', 'r']
  | '\n'   => ['\\', 'n']
  | '\\'   => ['\\', '\\']
  | c      =>
    if c = quote then ['\\', c]
    else if Unprintable.contains c then "\\u\x7b".toList ++ hex c.toNat ++ ['\x7d']
    else [c]

/-- A text between double quotes. -/
def text (s : List Char) : List Char :=
  '"' :: (s.flatMap (escape '"') ++ ['"'])

/-- A character between single quotes. -/
def char (c : Char) : List Char :=
  '\'' :: (escape '\'' c ++ ['\''])

end TypedFormat.Quoted
