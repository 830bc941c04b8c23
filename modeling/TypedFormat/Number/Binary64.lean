import TypedFormat.Number.Power

/-!
# Floating point numbers of 64 bits

A `Binary64` is its bit pattern: a sign, eleven bits of exponent and 52 of fraction. Its
magnitude is read off exactly, as a whole number times a power of two, so that everything said
about its text is arithmetic on `Nat`. `nearestBits` goes the other way: it rounds a quotient of
naturals to the nearest pattern, a tie to the even one.
-/

namespace TypedFormat

/-- A magnitude `mantissa * 2 ^ exponent`. -/
structure Dyadic where
  mantissa : Nat
  exponent : Int
deriving DecidableEq

namespace Dyadic

/-- The magnitude is `numerator / denominator`. -/
def numerator (x : Dyadic) : Nat :=
  x.mantissa * twoTo x.exponent.toNat

@[inherit_doc numerator]
def denominator (x : Dyadic) : Nat :=
  twoTo (-x.exponent).toNat

theorem denominator_pos (x : Dyadic) : 0 < x.denominator :=
  twoTo_pos _

end Dyadic

/-- A floating point number, given by its bits. -/
structure Binary64 where
  bits : UInt64
deriving DecidableEq

namespace Binary64

/-! ### Reading the bits -/

/-- Whether the sign bit is set. -/
def negative (x : Binary64) : Bool :=
  twoTo 63 ≤ x.bits.toNat

/-- The bits below the sign. -/
def magnitudeBits (x : Binary64) : Nat :=
  x.bits.toNat % twoTo 63

/-- The magnitude bits of infinity; all that is greater is not a number. -/
def infinityBits : Nat :=
  0x7FF * twoTo 52

def isNaN (x : Binary64) : Bool :=
  infinityBits < x.magnitudeBits

def isInfinite (x : Binary64) : Bool :=
  x.magnitudeBits == infinityBits

def isFinite (x : Binary64) : Bool :=
  x.magnitudeBits < infinityBits

/-- The value of magnitude bits below infinity. Exponent zero marks the subnormals, which lack
the leading bit. -/
def dyadicOfBits (bits : Nat) : Dyadic :=
  let exponent : Nat := bits / twoTo 52
  let fraction : Nat := bits % twoTo 52
  if exponent = 0 then ⟨fraction, -1074⟩
  else ⟨fraction + twoTo 52, (exponent : Int) - 1075⟩

/-- The exact magnitude of a finite number. -/
def dyadic (x : Binary64) : Dyadic :=
  dyadicOfBits x.magnitudeBits

/-! ### Rounding to the nearest pattern -/

/-- A quotient rounded to the nearest whole number, a tie to the even one. -/
def roundHalfEven (num den : Nat) : Nat :=
  let floor := num / den
  let rest := num % den
  if 2 * rest < den then floor
  else if den < 2 * rest then floor + 1
  else if floor % 2 = 0 then floor
  else floor + 1

/-- The greatest `k` with `2 ^ k ≤ num / den`, for a positive quotient. -/
def binaryOrder (num den : Nat) : Int :=
  let guess : Int := (Nat.log2 num : Int) - Nat.log2 den
  if den * twoTo guess.toNat ≤ num * twoTo (-guess).toNat then guess else guess - 1

/-- The magnitude bits nearest to a quotient. In the grid of spacing `2 ^ exponent` the quotient
is `count` steps from zero; patterns are numbered along the grids, so that a count that reaches
the next power of two carries into the exponent by itself. -/
def nearestBits (num den : Nat) : Nat :=
  if num = 0 then 0
  else
    let exponent := max (-1074) (binaryOrder num den - 52)
    let count := roundHalfEven (num * twoTo (-exponent).toNat) (den * twoTo exponent.toNat)
    min infinityBits ((exponent + 1074).toNat * twoTo 52 + count)

/-- A number from its sign and its magnitude bits. -/
def ofMagnitudeBits (negative : Bool) (bits : Nat) : Binary64 :=
  ⟨UInt64.ofNat (if negative then twoTo 63 + bits else bits)⟩

/-- The number nearest to an integer. -/
def ofInt (v : Int) : Binary64 :=
  ofMagnitudeBits (v < 0) (nearestBits v.natAbs 1)

/-- The number with the value of a pattern of 32 bits, whose exponent has eight bits and whose
fraction has 23. -/
def ofBinary32 (bits : UInt32) : Binary64 :=
  let n := bits.toNat
  let negative : Bool := twoTo 31 ≤ n
  let exponent : Nat := n / twoTo 23 % twoTo 8
  let fraction : Nat := n % twoTo 23
  if exponent = 255 then
    ofMagnitudeBits negative (infinityBits + fraction * twoTo 29)
  else
    let x : Dyadic :=
      if exponent = 0 then ⟨fraction, -149⟩ else ⟨fraction + twoTo 23, (exponent : Int) - 150⟩
    ofMagnitudeBits negative (nearestBits x.numerator x.denominator)

end Binary64

end TypedFormat
