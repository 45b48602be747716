/-!
Doubles that are not negative, and the shortest decimals that stand for them.
-/

namespace InlineScript.Json

/-- A double: its mantissa times two to the power of its exponent. Mantissas have at most 53 bits,
and all 53 unless the exponent is the least one. -/
structure Double where
  mantissa : Nat
  exponent : Int
deriving DecidableEq, Repr

namespace Double

def leastExponent : Int := -1074

/-- Mantissas stay below this. -/
def mantissaBound : Nat := 9007199254740992

/-- The quotient by two to the power of an exponent, as numerator and denominator. -/
def scaledRatio (numerator denominator : Nat) (exponent : Int) : Nat × Nat :=
  (numerator * Nat.pow 2 (-exponent).toNat, denominator * Nat.pow 2 exponent.toNat)

/-- The integer nearest to a quotient; of two the even one. -/
def nearest (numerator denominator : Nat) : Nat :=
  let quotient := numerator / denominator
  let twice := 2 * (numerator % denominator)
  if denominator < twice || (denominator == twice && quotient % 2 == 1) then quotient + 1
  else quotient

/-- The exponent with which the mantissa of a quotient has 53 bits, or the least one. -/
def exponentOf (numerator denominator : Nat) : Int :=
  let guess : Int := (numerator.log2 : Int) - (denominator.log2 : Int) - 52
  let (above, below) := scaledRatio numerator denominator guess
  max leastExponent (if 2 * above < below * mantissaBound then guess - 1 else guess)

/-- The double nearest to a quotient. -/
def ofRatio (numerator denominator : Nat) : Double :=
  if numerator = 0 then
    ⟨0, leastExponent⟩
  else
    let exponent := exponentOf numerator denominator
    let (above, below) := scaledRatio numerator denominator exponent
    let mantissa := nearest above below
    if mantissa = mantissaBound then ⟨mantissa / 2, exponent + 1⟩ else ⟨mantissa, exponent⟩

def numerator (double : Double) : Nat :=
  double.mantissa * Nat.pow 2 double.exponent.toNat

def denominator (double : Double) : Nat :=
  Nat.pow 2 (-double.exponent).toNat

def times (left right : Double) : Double :=
  ofRatio (left.numerator * right.numerator) (left.denominator * right.denominator)

def dividedBy (left right : Double) : Double :=
  ofRatio (left.numerator * right.denominator) (left.denominator * right.numerator)

/-- Whether a double is too large to be one. -/
def isInfinite (double : Double) : Bool :=
  971 < double.exponent

/-- A power of ten. -/
def tenTo (power : Nat) : Double :=
  ofRatio (Nat.pow 10 power) 1

/-- Divides by a power of ten, in steps that a double can hold. -/
def lower (double : Double) (places : Nat) : Double :=
  if places ≤ 308 then double.dividedBy (tenTo places)
  else if double.mantissa = 0 then double
  else lower (double.dividedBy (tenTo 308)) (places - 308)
termination_by places
decreasing_by omega

/-- A significand times a power of ten. Significand, power and result are rounded one by one. -/
def ofDecimal (significand : Nat) (power : Int) : Double :=
  let start := ofRatio significand 1
  if significand = 0 then start
  else if power < 0 then start.lower (-power).toNat
  else start.times (tenTo power.toNat)

end Double

/-- A decimal by its digits, the last of them not zero, and the power of ten of the first one. -/
structure Decimal where
  digits : List Char
  power : Int
deriving DecidableEq, Repr

namespace Decimal

def zeros (count : Nat) : List Char :=
  List.replicate count '0'

/-- The decimal of a count of units, each of them a power of ten. -/
def ofUnits (count : Nat) (unit : Int) : Decimal :=
  let digits := (toString count).toList
  { digits := (digits.reverse.dropWhile (· == '0')).reverse
    power := unit + (digits.length : Int) - 1 }

/-- Digits around a point, with at least one on each side of it. -/
def positional (decimal : Decimal) : List Char :=
  if decimal.power < 0 then
    ['0', '.'] ++ zeros (-decimal.power - 1).toNat ++ decimal.digits
  else
    let whole := decimal.power.toNat + 1
    let fraction := decimal.digits.drop whole
    decimal.digits.take whole ++ zeros (whole - decimal.digits.length)
      ++ '.' :: (if fraction.isEmpty then ['0'] else fraction)

/-- One digit before the point, and the power of ten behind a letter. -/
def scientific (decimal : Decimal) : List Char :=
  let fraction := decimal.digits.drop 1
  let sign := if decimal.power < 0 then '-' else '+'
  decimal.digits.take 1 ++ (if fraction.isEmpty then [] else '.' :: fraction)
    ++ 'e' :: sign :: (toString decimal.power.natAbs).toList

/-- Decimals from a hundred-thousandth on are written out, up to sixteen digits before the point. -/
def text (decimal : Decimal) : String :=
  String.ofList
    (if -5 ≤ decimal.power ∧ decimal.power ≤ 15 then decimal.positional else decimal.scientific)

end Decimal

namespace Double

/-- The power of ten of the first digit of a quotient. -/
def leadingPower (numerator denominator : Nat) : Int :=
  if denominator ≤ numerator then
    ((toString (numerator / denominator)).length : Int) - 1
  else
    -(((List.range 400).find? fun places => denominator ≤ numerator * Nat.pow 10 places).getD 0 : Int)

/-- The numbers between the neighbours of a double that are read as the double itself: a quarter of
the step to the next double is the unit, and the ends belong to an even mantissa. -/
structure Neighbourhood where
  low : Nat
  middle : Nat
  high : Nat
  closed : Bool
deriving DecidableEq, Repr

def neighbourhood (double : Double) : Neighbourhood :=
  let middle := 4 * double.mantissa
  let nearBelow :=
    2 * double.mantissa = mantissaBound ∧ double.exponent ≠ leastExponent
  { low := middle - (if nearBelow then 1 else 2)
    middle
    high := middle + 2
    closed := double.mantissa % 2 == 0 }

/-- The decimal with the given number of digits that is read as the double, if there is one; of two
the nearer. -/
def decimalWith? (double : Double) (count : Nat) : Option Decimal :=
  let around := double.neighbourhood
  let unit := leadingPower double.numerator double.denominator - (count : Int) + 1
  let quarter := Nat.pow 2 (double.exponent - 2).toNat * Nat.pow 10 (-unit).toNat
  let grid := Nat.pow 10 unit.toNat * Nat.pow 2 (2 - double.exponent).toNat
  let isNear (units : Nat) : Bool :=
    if around.closed then around.low * quarter ≤ units * grid && units * grid ≤ around.high * quarter
    else around.low * quarter < units * grid && units * grid < around.high * quarter
  let middle := around.middle * quarter
  let below := middle / grid
  let gap := middle - below * grid
  let isAboveNearer := grid < 2 * gap || (grid == 2 * gap && below % 2 == 1)
  let order := if isAboveNearer then [below + 1, below] else [below, below + 1]
  (order.find? isNear).map fun units => Decimal.ofUnits units unit

/-- The shortest decimal that is read as the double. Seventeen digits always suffice. -/
def shortest (double : Double) : Decimal :=
  if double.mantissa = 0 then
    { digits := ['0'], power := 0 }
  else
    ((List.range' 1 17).findSome? double.decimalWith?).getD { digits := ['0'], power := 0 }

end Double

end InlineScript.Json
