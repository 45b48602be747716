import InlineScript.Json.Double

/-!
Numbers as JSON writes them. Integers of 64 bits are kept as they are, all other numbers are doubles.
-/

namespace InlineScript.Json

/-- The parts of a number: digits are kept as written. -/
structure Number where
  negative : Bool
  whole : List Char
  fraction : List Char
  /-- Whether the exponent is negative, and its digits. -/
  exponent : Option (Bool × List Char)
deriving DecidableEq, Repr, Inhabited

namespace Number

/-- The value of a run of decimal digits. -/
def digitsValue (digits : List Char) : Nat :=
  digits.foldl (fun value digit => value * 10 + (digit.toNat - '0'.toNat)) 0

/-- An exponent behind its letter: an optional sign and at least one digit. -/
def exponentOf? (text : List Char) : Option (Bool × List Char) :=
  let signed : Bool × List Char :=
    match text with
    | '-' :: digits => (true, digits)
    | '+' :: digits => (false, digits)
    | digits => (false, digits)
  if signed.2.isEmpty || !signed.2.all Char.isDigit then none else some signed

/-- The exponent part of a number, if there is one: `some none` for no text at all. -/
def exponentPart? : List Char → Option (Option (Bool × List Char))
  | [] => some none
  | letter :: rest => if letter = 'e' ∨ letter = 'E' then (exponentOf? rest).map some else none

/-- Reads a number: no leading zeros, and digits on both sides of a point. -/
def ofChars? (text : List Char) : Option Number :=
  let signed : Bool × List Char :=
    match text with
    | '-' :: rest => (true, rest)
    | rest => (false, rest)
  let whole := signed.2.takeWhile Char.isDigit
  let rest := signed.2.dropWhile Char.isDigit
  if whole.isEmpty || (whole.head? == some '0' && whole.length != 1) then
    none
  else
    match rest with
    | '.' :: tail =>
        let fraction := tail.takeWhile Char.isDigit
        if fraction.isEmpty then
          none
        else
          (exponentPart? (tail.dropWhile Char.isDigit)).map
            fun exponent => { negative := signed.1, whole, fraction, exponent }
    | tail =>
        (exponentPart? tail).map
          fun exponent => { negative := signed.1, whole, fraction := [], exponent }

def ofInt (value : Int) : Number where
  negative := value < 0
  whole := (toString value.natAbs).toList
  fraction := []
  exponent := none

/-- The value of a number written as an integer of 64 bits, with or without sign. A negative zero is
no integer. -/
def integer? (number : Number) : Option Int :=
  if number.fraction.isEmpty && number.exponent.isNone then
    let size := digitsValue number.whole
    if number.negative then
      if 0 < size ∧ size ≤ 9223372036854775808 then some (-(size : Int)) else none
    else
      if size ≤ 18446744073709551615 then some (size : Int) else none
  else
    none

/-- The value of a number written as an unsigned integer of 64 bits. -/
def natural? (number : Number) : Option Nat :=
  if number.negative || !number.fraction.isEmpty || number.exponent.isSome then
    none
  else
    let value := digitsValue number.whole
    if value ≤ 18446744073709551615 then some value else none

/-- Digits collected into a significand of 64 bits. Once a digit does not fit, the remaining ones
are only counted. -/
def collect : Nat → Nat → List Char → Nat × Nat × Bool
  | value, taken, [] => (value, taken, true)
  | value, taken, digit :: rest =>
      let next := value * 10 + (digit.toNat - '0'.toNat)
      if next ≤ 18446744073709551615 then collect next (taken + 1) rest else (value, taken, false)

/-- Significand and power of ten of a number, with at most 64 bits of significand. -/
def significand (number : Number) : Nat × Int :=
  let (whole, taken, _) := collect 0 0 number.whole
  let dropped := number.whole.length - taken
  let (value, decimals, _) := collect whole 0 number.fraction
  let written : Int :=
    match number.exponent with
    | none => 0
    | some (negative, digits) =>
        if negative then -(digitsValue digits : Int) else (digitsValue digits : Int)
  (value, (dropped : Int) - (decimals : Int) + written)

/-- The double that a number stands for, without its sign. -/
def magnitude (number : Number) : Double :=
  Double.ofDecimal number.significand.1 number.significand.2

/-- Whether a number is too large for a double. -/
def overflowsDouble (number : Number) : Bool :=
  number.significand.1 != 0 && (308 < number.significand.2 || number.magnitude.isInfinite)

def render (number : Number) : String :=
  match number.integer? with
  | some value => toString value
  | none => (if number.negative then "-" else "") ++ number.magnitude.shortest.text

end Number

end InlineScript.Json
