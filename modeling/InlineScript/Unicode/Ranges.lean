import Std.Data.TreeMap

/-!
Tables of characters. A table is written as words, each a range of code points in hexadecimal digits,
and what the range is given behind a colon.
-/

namespace InlineScript.Unicode

/-! ## Reading -/

def hexDigitValue (char : Char) : Nat :=
  if char.isDigit then char.toNat - '0'.toNat else char.toUpper.toNat - 'A'.toNat + 10

/-- The value of hexadecimal digits. -/
def hexValue (digits : List Char) : Nat :=
  digits.foldl (fun value digit => value * 16 + hexDigitValue digit) 0

/-- The words of a table, which stand between blanks and line breaks. -/
def wordsOf (data : String) : List (List Char) :=
  (data.toList.splitOnP Char.isWhitespace).filter (!·.isEmpty)

/-- A word before and after a mark. -/
def cutAt (mark : Char) (word : List Char) : List Char × List Char :=
  (word.takeWhile (· != mark), (word.dropWhile (· != mark)).drop 1)

/-- The ends of a range. One code point is a range of its own. -/
def readRange (word : List Char) : Nat × Nat :=
  let (first, last) := cutAt '-' word
  (hexValue first, if last.isEmpty then hexValue first else hexValue last)

/-! ## Tables -/

/-- Values of ranges that do not overlap, by their first code points; a range goes with its last one. -/
abbrev RangeMap (α : Type) := Std.TreeMap Nat (Nat × α)

namespace RangeMap

variable {α : Type}

def ofEntries (entries : List (Nat × Nat × α)) : RangeMap α :=
  Std.TreeMap.ofList entries

/-- The table that words give, with values behind the colons. -/
def ofData (data : String) (read : List Char → α) : RangeMap α :=
  ofEntries ((wordsOf data).map fun word =>
    let (range, value) := cutAt ':' word
    let (first, last) := readRange range
    (first, last, read value))

/-- The table that words without values give. -/
def ofSet (data : String) : RangeMap Unit :=
  ofData data fun _ => ()

/-- The first code point of the range that a code point lies in, and the value of the range. -/
def entry? (map : RangeMap α) (code : Nat) : Option (Nat × α) :=
  match map.getEntryLE? code with
  | some (first, last, value) => if code ≤ last then some (first, value) else none
  | none => none

def find? (map : RangeMap α) (code : Nat) : Option α :=
  (map.entry? code).map (·.2)

def contains (map : RangeMap α) (code : Nat) : Bool :=
  (map.entry? code).isSome

end RangeMap

end InlineScript.Unicode
