/-!
Names in letters of the smallest set. The plain letters of a name come first; behind the last hyphen
stand the other characters in increasing order, each by how far it lies from the one before, counted
over all places where it could stand.
-/

namespace InlineScript.Punycode

/-- Digits have values up to thirty-five: letters first. -/
def digit (value : Nat) : Char :=
  if value < 26 then Char.ofNat ('a'.toNat + value) else Char.ofNat ('0'.toNat + value - 26)

def digitValue? (char : Char) : Option Nat :=
  if char.isDigit then some (char.toNat - '0'.toNat + 26)
  else if char.isAlpha then some (char.toLower.toNat - 'a'.toNat)
  else none

/-- A number ends with its first digit below the threshold of the digit's place. -/
def threshold (bias place : Nat) : Nat :=
  if place ≤ bias then 1 else if bias + 26 ≤ place then 26 else place - bias

theorem threshold_bounds (bias place : Nat) :
    1 ≤ threshold bias place ∧ threshold bias place ≤ 26 := by
  unfold threshold
  split
  next => omega
  next => split <;> omega

/-- Divides a distance until it is small, and counts the places that takes. -/
def shrink (distance place : Nat) : Nat × Nat :=
  if 455 < distance then shrink (distance / 35) (place + 36) else (distance, place)
termination_by distance
decreasing_by omega

/-- The bias for the next number, from the last one and how many characters there are now. -/
def adapt (distance count : Nat) (isFirst : Bool) : Nat :=
  let damped := if isFirst then distance / 700 else distance / 2
  let (small, place) := shrink (damped + damped / count) 0
  place + 36 * small / (small + 38)

/-- Characters that stand for themselves. -/
def isPlain (char : Char) : Bool :=
  char.toNat < 0x80

/-! ## Writing -/

/-- The digits of a number. -/
def digitsFrom (bias place value : Nat) : List Char :=
  let least := threshold bias place
  if value < least then
    [digit value]
  else
    digit (least + (value - least) % (36 - least))
      :: digitsFrom bias (place + 36) ((value - least) / (36 - least))
termination_by value
decreasing_by
  have bounds := threshold_bounds bias place
  exact Nat.lt_of_le_of_lt (Nat.div_le_self _ _) (by omega)

structure Writing where
  /-- The distance since the last number. -/
  distance : Nat
  bias : Nat
  /-- How many characters have been written. -/
  count : Nat
  /-- The digits so far. -/
  digits : List Char

/-- Passes a place of the name while characters with the given code point are written. -/
def Writing.pass (plain code : Nat) (state : Writing) (char : Char) : Writing :=
  if char.toNat < code then
    { state with distance := state.distance + 1 }
  else if char.toNat = code then
    { distance := 0
      bias := adapt state.distance (state.count + 1) (state.count == plain)
      count := state.count + 1
      digits := state.digits ++ digitsFrom state.bias 36 state.distance }
  else
    state

/-- Writes the given code points, which increase from `least` on, wherever they stand in the name. -/
def writeCodes (name : List Char) (plain : Nat) : Nat → List Nat → Writing → Writing
  | _, [], state => state
  | least, code :: rest, state =>
      let start := { state with distance := state.distance + (code - least) * (state.count + 1) }
      let passed := name.foldl (Writing.pass plain code) start
      writeCodes name plain (code + 1) rest { passed with distance := passed.distance + 1 }

/-- The code points of a name that are not plain, each once, in increasing order. -/
def otherCodes (name : List Char) : List Nat :=
  (((name.filter (!isPlain ·)).map Char.toNat).mergeSort (· ≤ ·)).eraseReps

def encode (name : List Char) : List Char :=
  let plain := name.filter isPlain
  let start : Writing := { distance := 0, bias := 72, count := plain.length, digits := [] }
  let written := writeCodes name plain.length 0x80 (otherCodes name) start
  plain ++ (if plain.isEmpty then [] else ['-']) ++ written.digits

/-! ## Reading -/

/-- Numbers stay below this. -/
def limit : Nat := 0x100000000

/-- Reads a number: its value, and what follows it. -/
def readNumber (bias : Nat) (place weight value : Nat) :
    List Char → Option (Nat × List Char)
  | [] => none
  | char :: rest =>
      match digitValue? char with
      | none => none
      | some found =>
          let next := value + found * weight
          let least := threshold bias place
          if limit ≤ next then none
          else if found < least then some (next, rest)
          else if limit ≤ weight * (36 - least) then none
          else readNumber bias (place + 36) (weight * (36 - least)) next rest

theorem readNumber_shorter {bias place weight value found : Nat} {text rest : List Char}
    (read : readNumber bias place weight value text = some (found, rest)) :
    rest.length < text.length := by
  induction text generalizing place weight value with
  | nil => simp [readNumber] at read
  | cons char tail induction =>
      simp only [readNumber] at read
      split at read
      next => contradiction
      next =>
        split at read
        next => contradiction
        next =>
          split at read
          next =>
            simp only [Option.some.injEq, Prod.mk.injEq] at read
            simp [← read.2]
          next =>
            split at read
            next => contradiction
            next =>
              have shorter := induction read
              simp only [List.length_cons]
              omega

/-- Puts characters into a name, each as far from the last one as the next number says. -/
def readCodes (bias code place : Nat) (name : List Char) (text : List Char) : Option (List Char) :=
  if text.isEmpty then
    some name
  else
    match _read : readNumber bias 36 1 place text with
    | none => none
    | some (reached, rest) =>
        let count := name.length + 1
        let next := code + reached / count
        if Nat.isValidChar next then
          readCodes (adapt (reached - place) count (place == 0)) next (reached % count + 1)
            (name.insertIdx (reached % count) (Char.ofNat next)) rest
        else
          none
termination_by text.length
decreasing_by exact readNumber_shorter _read

/-- The name that a text stands for. A hyphen stands behind plain letters only. -/
def decode? (text : List Char) : Option (List Char) :=
  let back := text.reverse
  let digits := (back.takeWhile (· != '-')).reverse
  let front := (back.dropWhile (· != '-')).reverse
  let plain := front.dropLast
  if front != ['-'] && plain.all isPlain then readCodes 72 0x80 0 plain digits else none

end InlineScript.Punycode
