/-!
Addresses of machines: numbers of thirty-two bits, written as up to four numbers between dots, and
lists of eight numbers of sixteen bits, written in brackets.
-/

namespace InlineScript.Address

/-! ## Short addresses -/

/-- The digits of a number and their base: `0x` and `0` in front choose other bases than ten. -/
def basedDigits (text : List Char) : Nat × List Char :=
  match text with
  | '0' :: 'x' :: digits | '0' :: 'X' :: digits => (16, digits)
  | '0' :: digit :: digits => (8, digit :: digits)
  | digits => (10, digits)

def digitValue? (base : Nat) (char : Char) : Option Nat :=
  let value :=
    if char.isDigit then some (char.toNat - '0'.toNat)
    else if char.isAlpha then some (char.toLower.toNat - 'a'.toNat + 10)
    else none
  value.filter (· < base)

/-- The value of digits, most significant first. -/
def valueOf? (base : Nat) (digits : List Char) : Option Nat :=
  (digits.mapM (digitValue? base)).map (·.foldl (fun value digit => value * base + digit) 0)

/-- The number that a part of an address is. -/
def part? (text : List Char) : Option Nat :=
  if text.isEmpty then none
  else
    let (base, digits) := basedDigits text
    valueOf? base digits

/-- The parts of a name between dots; a dot at the end does not count. -/
def parts (name : List Char) : List (List Char) :=
  let parts := name.splitOn '.'
  if parts.getLast? = some [] then parts.dropLast else parts

/-- Whether a name has to be an address, because its last part is a number. -/
def endsInNumber (name : List Char) : Bool :=
  match (parts name).getLast? with
  | none => false
  | some last => (!last.isEmpty && last.all Char.isDigit) || (part? last).isSome

/-- The value of the numbers between dots. All but the last fill one byte, the last one fills the
others. -/
def short? (name : List Char) : Option Nat := do
  let numbers ← (parts name).mapM part?
  let last ← numbers.getLast?
  let front := numbers.dropLast
  if 3 < front.length || front.any (255 < ·) || Nat.pow 256 (4 - front.length) ≤ last then
    none
  else
    let high := front.foldl (fun value number => value * 256 + number) 0
    some (high * Nat.pow 256 (4 - front.length) + last)

/-- A short address as four numbers between dots. -/
def renderShort (value : Nat) : List Char :=
  ['.'].intercalate
    ([value / 16777216, value / 65536 % 256, value / 256 % 256, value % 256].map
      fun number => (toString number).toList)

/-! ## Long addresses -/

/-- The numbers of a long address as they are read. -/
structure Pieces where
  numbers : List Nat
  /-- How many of them stand before the zeros that were left out. -/
  gap : Option Nat
deriving Repr

/-- A number of an address in decimal digits, without zeros in front. -/
def byte? (text : List Char) : Option Nat := do
  if text.isEmpty || !text.all Char.isDigit || (text.head? == some '0' && text.length != 1) then
    none
  else
    (valueOf? 10 text).filter (· ≤ 255)

/-- The two numbers that a short address at the end of a long one fills. -/
def tail? (text : List Char) : Option (List Nat) :=
  match (text.splitOn '.').mapM byte? with
  | some [first, second, third, fourth] => some [first * 256 + second, third * 256 + fourth]
  | _ => none

/-- Up to so many digits, and what follows them. -/
def takeDigits : Nat → List Char → List Char × List Char
  | 0, text => ([], text)
  | _, [] => ([], [])
  | count + 1, char :: rest =>
      if (digitValue? 16 char).isSome then
        let (digits, after) := takeDigits count rest
        (char :: digits, after)
      else
        ([], char :: rest)

/-- Reads numbers behind those so far. Each step takes at least one character, so `fuel` need not be
greater than the length of the text. -/
def readPieces (pieces : Pieces) : Nat → List Char → Option Pieces
  | _, [] => some pieces
  | 0, _ :: _ => none
  | fuel + 1, char :: rest =>
      if pieces.numbers.length = 8 then
        none
      else if char = ':' then
        if pieces.gap.isSome then none
        else
          let numbers := pieces.numbers ++ [0]
          readPieces { numbers, gap := some numbers.length } fuel rest
      else
        let (digits, after) := takeDigits 4 (char :: rest)
        let numbers := pieces.numbers ++ [(valueOf? 16 digits).getD 0]
        match after with
        | [] => some { pieces with numbers }
        | ':' :: next => if next.isEmpty then none else readPieces { pieces with numbers } fuel next
        | '.' :: _ =>
            if digits.isEmpty || 6 < pieces.numbers.length then none
            else
              (tail? (char :: rest)).map fun last =>
                { pieces with numbers := pieces.numbers ++ last }
        | _ => none

/-- The eight numbers, with zeros where some were left out. -/
def Pieces.all? (pieces : Pieces) : Option (List Nat) :=
  match pieces.gap with
  | none => if pieces.numbers.length = 8 then some pieces.numbers else none
  | some gap =>
      some (pieces.numbers.take gap ++ List.replicate (8 - pieces.numbers.length) 0
        ++ pieces.numbers.drop gap)

/-- The numbers of a long address. -/
def long? (text : List Char) : Option (List Nat) :=
  if text.length < 2 then
    none
  else
    match text with
    | ':' :: ':' :: rest => (readPieces ⟨[0], some 1⟩ rest.length rest).bind Pieces.all?
    | ':' :: _ => none
    | _ => (readPieces ⟨[], none⟩ text.length text).bind Pieces.all?

/-- How many zeros a list starts with. -/
def zeros (numbers : List Nat) : Nat :=
  (numbers.takeWhile (· == 0)).length

/-- Where the longest run of zeros starts, and how long it is; the first one of several. -/
def longestZeros (numbers : List Nat) : Nat × Nat :=
  (List.range numbers.length).foldl
    (fun best start =>
      let count := zeros (numbers.drop start)
      if best.2 < count then (start, count) else best)
    (0, 0)

def hexDigit (value : Nat) : Char :=
  if value < 10 then Char.ofNat ('0'.toNat + value) else Char.ofNat ('a'.toNat + (value - 10))

/-- A number of sixteen bits in digits, without zeros in front. -/
def renderPiece (number : Nat) : List Char :=
  let digits :=
    [number / 4096 % 16, number / 256 % 16, number / 16 % 16].dropWhile (· == 0) ++ [number % 16]
  digits.map hexDigit

def renderPieces (numbers : List Nat) : List Char :=
  [':'].intercalate (numbers.map renderPiece)

/-- A long address. The longest run of two zeros or more is left out. -/
def renderLong (numbers : List Nat) : List Char :=
  let (start, count) := longestZeros numbers
  let inner :=
    if count < 2 then renderPieces numbers
    else
      renderPieces (numbers.take start) ++ [':', ':'] ++ renderPieces (numbers.drop (start + count))
  '[' :: inner ++ [']']

end InlineScript.Address
