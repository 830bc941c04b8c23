import TypedFormat.Number.Decimal

/-!
# Shortest decimals

The shortest decimal that reads back as a given floating point number. The decimals with a given
number of digits form a grid around the value; on the coarsest grid where one of the value's two
neighbours reads back, the nearer of those that do is taken. Should no grid of up to seventeen
digits serve, the exact value is the decimal.
-/

namespace TypedFormat

/-- Which of two equally near decimals is taken. -/
inductive TieRule where
  | up
  | even
deriving DecidableEq

namespace Shortest

/-- The greatest `k` with `10 ^ k ≤ num / den`, for a positive quotient. -/
def decimalOrder (num den : Nat) : Int :=
  if den ≤ num then (Nat.toDigits 10 (num / den)).length - 1
  else
    let least := (Nat.toDigits 10 (den / num)).length - 1
    if den ≤ num * tenTo least then -least else -(least + 1 : Nat)

/-- The decimal with the least exponent of two, a number that lies between them being `rest`
parts of `whole` past the lower. -/
def nearer (tie : TieRule) (lower upper : Decimal) (floor rest whole : Nat) : Decimal :=
  if 2 * rest < whole then lower
  else if whole < 2 * rest then upper
  else match tie with
    | .up   => upper
    | .even => if floor % 2 = 0 then lower else upper

/-- The nearest decimal that reads as `bits` among the two multiples of `10 ^ exponent` around
`num / den`. -/
def onGrid (tie : TieRule) (bits num den : Nat) (exponent : Int) : Option Decimal :=
  let scaled := num * tenTo (-exponent).toNat
  let unit := den * tenTo exponent.toNat
  let floor := scaled / unit
  let lower := Decimal.reduce ⟨floor, exponent⟩
  let upper := Decimal.reduce ⟨floor + 1, exponent⟩
  match lower.bits == bits, upper.bits == bits with
  | true,  true  => some (nearer tie lower upper floor (scaled % unit) unit)
  | true,  false => some lower
  | false, true  => some upper
  | false, false => none

/-- The exact value of a magnitude as a decimal: two to a negative power is five to its opposite
over ten to its opposite. -/
def exact (x : Dyadic) : Decimal :=
  ⟨x.numerator * fiveTo (-x.exponent).toNat, min 0 x.exponent⟩

/-- The shortest decimal that reads as `bits`, a pattern below infinity. -/
def ofBits (tie : TieRule) (bits : Nat) : Decimal :=
  let x := Binary64.dyadicOfBits bits
  if x.mantissa = 0 then ⟨0, 0⟩
  else
    let order := decimalOrder x.numerator x.denominator
    let grids := (List.range 17).map fun (more : Nat) => order - more
    (grids.findSome? (onGrid tie bits x.numerator x.denominator)).getD (exact x)

end Shortest

namespace Binary64

/-- The shortest decimal that reads back as a finite number's magnitude. -/
def shortest (tie : TieRule) (x : Binary64) : Decimal :=
  Shortest.ofBits tie x.magnitudeBits

/-- The text of a number by itself: its shortest decimal in positions, after a sign. -/
def text (x : Binary64) : List Char :=
  if x.isNaN then "NaN".toList
  else
    let magnitude := if x.isInfinite then "inf".toList else (x.shortest .up).positional
    if x.negative then '-' :: magnitude else magnitude

end Binary64

end TypedFormat
