import TypedFormat.Number.Binary64
import TypedFormat.Number.Numeral

/-!
# Fixed point numerals

Decimal numerals with a given number of places. `placed` writes a whole number of units of the
last place; `fixedPoint` writes a magnitude rounded to the nearest such unit, a tie away from
zero. Numerals are first rounded with ties to even, which is right unless the value lies exactly
between two of them; such a tie has an exact numeral with one place more, whose last digit is
dropped and the one before it increased. There is a limit on the number of places, past which no
numeral can be written.
-/

namespace TypedFormat

/-! ### Numerals -/

/-- The numeral of `units / 10 ^ places`. -/
def placed (places units : Nat) : List Char :=
  let whole := Nat.toDigits 10 (units / tenTo places)
  if places = 0 then whole
  else whole ++ '.' :: paddedDigits places (units % tenTo places)

/-! ### One unit in the last place -/

/-- The next digit up to nine; what is no digit becomes zero. -/
def nextDigit (c : Char) : Char :=
  if '0' ≤ c ∧ c < '9' then Char.ofNat (c.toNat + 1) else '0'

/-- Adds one to a numeral written backwards: nines turn to zeros up to the first other digit,
and the point is passed over. -/
def incrementBackward : List Char → List Char
  | []          => ['1']
  | '.' :: rest => '.' :: incrementBackward rest
  | '9' :: rest => '0' :: incrementBackward rest
  | c :: rest   => nextDigit c :: rest

/-- Adds one unit in the last place. -/
def incrementLast (numeral : List Char) : List Char :=
  (incrementBackward numeral.reverse).reverse

/-! ### Rounding -/

/-- How often two divides a positive number. -/
def twos (n : Nat) : Nat :=
  if h : n = 0 ∨ n % 2 = 1 then 0 else twos (n / 2) + 1
termination_by n
decreasing_by omega

/-- The greatest number of places with which a numeral can be written. -/
def mostPlaces : Nat := 65535

namespace Dyadic

/-- Whether a magnitude lies exactly between two numerals with `places` places. With an odd
mantissa, `2 * 10 ^ places` times the magnitude is an odd whole number just when the exponent
is `-(places + 1)`. -/
def isTie (x : Dyadic) (places : Nat) : Bool :=
  x.mantissa != 0 && x.exponent + twos x.mantissa == -((places : Int) + 1)

/-- A magnitude in units of the last place, rounded with ties to even. -/
def unitsHalfEven (x : Dyadic) (places : Nat) : Nat :=
  Binary64.roundHalfEven (x.numerator * tenTo places) x.denominator

/-- A numeral without its last digit, and without a point that would then stand last. -/
def dropLastDigit (numeral : List Char) : List Char :=
  let kept := numeral.dropLast
  if kept.getLast? = some '.' then kept.dropLast else kept

/-- The numeral of a magnitude, rounded half away from zero, with at most `mostPlaces` places. The
alternate form keeps the point where there are no places. -/
def fixedPoint (x : Dyadic) (places : Nat) (alternate : Bool) : List Char :=
  let numeral :=
    if x.isTie places then
      incrementLast (dropLastDigit (placed (places + 1) (x.unitsHalfEven (places + 1))))
    else placed places (x.unitsHalfEven places)
  if places = 0 && alternate then numeral ++ ['.'] else numeral

end Dyadic

end TypedFormat
