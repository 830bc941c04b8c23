/-!
# White space

The characters with the Unicode property White_Space, and the removal of white space from both
ends of a text. Settings are read after trimming and without regard to the case of ASCII letters.
-/

namespace TypedFormat

/-- Whether a character has the property White_Space. -/
def isBlank (c : Char) : Bool :=
  let n := c.toNat
  (9 ≤ n && n ≤ 13) || n == 0x20 || n == 0x85 || n == 0xA0 || n == 0x1680
    || (0x2000 ≤ n && n ≤ 0x200A) || n == 0x2028 || n == 0x2029 || n == 0x202F || n == 0x205F
    || n == 0x3000

/-- A text without the white space at its two ends. -/
def trimBlank (text : List Char) : List Char :=
  ((text.dropWhile isBlank).reverse.dropWhile isBlank).reverse

/-- A text with its ASCII capitals in lower case and all else as it is. -/
def lowerAscii (text : List Char) : List Char :=
  text.map Char.toLower

/-- How a setting is compared: trimmed and in lower case. -/
def settingKey (setting : String) : String :=
  String.ofList (lowerAscii (trimBlank setting.toList))

end TypedFormat
