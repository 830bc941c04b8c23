import TypedFormat.Json.Tree
import TypedFormat.Number.Decimal

/-!
# Numbers as they are written

A literal without a point and an exponent is an integer, if 64 bits can hold it. Every other literal
is read as a floating point number, for which only as many digits are regarded as 64 bits hold. The
number with these digits is multiplied or divided by a power of ten. So it is rounded more than
once, and need not be the one that is nearest to the literal.
-/

namespace TypedFormat.Json

/-- A number as it is written: digits before the point and after it, and an exponent. -/
structure Literal where
  negative : Bool
  whole : List Char
  fraction : List Char
  exponent : Option Int

/-! ### Scaling -/

/-- The greatest power of ten by which a number is scaled at once. -/
def greatestPower : Nat := 308

/-- The magnitude bits of a power of ten. -/
def powerBits (n : Nat) : Nat :=
  Binary64.nearestBits (tenTo n) 1

/-- The magnitude bits of a product. -/
def productBits (bits factor : Nat) : Nat :=
  let x := Binary64.dyadicOfBits bits
  let y := Binary64.dyadicOfBits factor
  Binary64.nearestBits (x.numerator * y.numerator) (x.denominator * y.denominator)

/-- The magnitude bits of a quotient. -/
def quotientBits (bits divisor : Nat) : Nat :=
  let x := Binary64.dyadicOfBits bits
  let y := Binary64.dyadicOfBits divisor
  Binary64.nearestBits (x.numerator * y.denominator) (x.denominator * y.numerator)

/-- Divides by the greatest power a number of times, as long as anything is left. -/
def divideOften (bits : Nat) : Nat → Nat
  | 0         => bits
  | often + 1 =>
    if bits = 0 then 0 else divideOften (quotientBits bits (powerBits greatestPower)) often

/-- Multiplies or divides by a power of ten, unless the product is out of range. -/
def scaledBits? (bits : Nat) (exponent : Int) : Option Nat :=
  let power := exponent.natAbs
  if exponent < 0 then
    let often := (power - 1) / greatestPower
    let rest := power - often * greatestPower
    some (quotientBits (divideOften bits often) (powerBits rest))
  else if bits = 0 then some 0
  else if power ≤ greatestPower then
    let product := productBits bits (powerBits power)
    if product < Binary64.infinityBits then some product else none
  else none

/-! ### Reading -/

/-- Puts digits behind a significand for as long as that then fits 64 bits, and gives those that are
left. -/
def takeSignificand (significand : Nat) : List Char → Nat × List Char
  | []        => (significand, [])
  | c :: rest =>
    let longer := significand * 10 + (c.toNat - '0'.toNat)
    if longer < UInt64.size then takeSignificand longer rest else (significand, c :: rest)

namespace Literal

/-- An integer that fits 64 bits. Negative zero is no integer, nor is what is too low for 64 bits
with a sign. -/
def integerNumber (negative : Bool) (magnitude : Nat) : Number :=
  let v : Int := if negative then -magnitude else magnitude
  if (negative ∧ magnitude = 0) ∨ v < leastInteger then
    .float (Binary64.ofMagnitudeBits negative (Binary64.nearestBits magnitude 1))
  else .integer v

/-- The number that a literal is read as, unless it is out of range. -/
def number? (literal : Literal) : Option Number :=
  let (magnitude, wholeLeft) := takeSignificand 0 literal.whole
  if literal.fraction.isEmpty && literal.exponent.isNone && wholeLeft.isEmpty then
    some (integerNumber literal.negative magnitude)
  else
    let (significand, fractionLeft) := takeSignificand magnitude literal.fraction
    let places := literal.fraction.length - fractionLeft.length
    let exponent := literal.exponent.getD 0 + wholeLeft.length - places
    (scaledBits? (Binary64.nearestBits significand 1) exponent).map fun bits =>
      .float (Binary64.ofMagnitudeBits literal.negative bits)

end Literal

end TypedFormat.Json
