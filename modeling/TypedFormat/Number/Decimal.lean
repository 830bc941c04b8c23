import TypedFormat.Number.FixedPoint

/-!
# Decimals

A decimal is a whole number times a power of ten. It can be written out in positions, and it
reads as the floating point number nearest to it.
-/

namespace TypedFormat

/-- The magnitude `significand * 10 ^ exponent`. -/
structure Decimal where
  significand : Nat
  exponent : Int
deriving DecidableEq

namespace Decimal

/-- The digits of the significand. -/
def digits (d : Decimal) : List Char :=
  Nat.toDigits 10 d.significand

/-- The power of ten of the first digit. -/
def order (d : Decimal) : Int :=
  d.exponent + d.digits.length - 1

/-- The same magnitude with no zero at the end of the significand. -/
def reduce (d : Decimal) : Decimal :=
  if h : d.significand = 0 ∨ d.significand % 10 ≠ 0 then d
  else reduce ⟨d.significand / 10, d.exponent + 1⟩
termination_by d.significand
decreasing_by simp_all; omega

/-- A decimal written in positions, with as many places as its exponent asks for. -/
def positional (d : Decimal) : List Char :=
  placed (-d.exponent).toNat (d.significand * tenTo d.exponent.toNat)

/-- The magnitude bits of the nearest floating point number. Far beyond the range of these
numbers the order alone decides, which spares the powers of ten. -/
def bits (d : Decimal) : Nat :=
  if d.significand = 0 then 0
  else if 400 < d.exponent then Binary64.infinityBits
  else if d.order < -400 then 0
  else Binary64.nearestBits (d.significand * tenTo d.exponent.toNat) (tenTo (-d.exponent).toNat)

/-- The decimal written by digits before a point, digits after it and an exponent. -/
def ofDigits (whole fraction : List Char) (exponent : Int) : Decimal :=
  ⟨Nat.ofDigitChars 10 (whole ++ fraction) 0, exponent - fraction.length⟩

end Decimal

end TypedFormat
