/-!
# Numerals

Integers in base ten, and numerals with a least number of digits.
-/

namespace TypedFormat

/-- An integer in base ten, with a minus sign if it is negative. -/
def integerText (v : Int) : List Char :=
  if v < 0 then '-' :: Nat.toDigits 10 v.natAbs else Nat.toDigits 10 v.natAbs

/-- A number in base ten, with zeros in front up to a least number of digits. -/
def paddedDigits (least n : Nat) : List Char :=
  let digits := Nat.toDigits 10 n
  List.replicate (least - digits.length) '0' ++ digits

end TypedFormat
