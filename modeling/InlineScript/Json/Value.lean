import InlineScript.Json.Raw

/-!
JSON values. Giving a text its value fails where the text is well formed but its value has no
room: nested too deeply, a number no double can hold, half a surrogate pair.
-/

namespace InlineScript.Json

inductive Value where
  | null
  | bool (value : Bool)
  | number (number : Number)
  | string (text : String)
  | array (items : List Value)
  | object (members : List (String × Value))
deriving Repr, Inhabited

/-- The characters of a string. An escaped high surrogate needs its low one directly behind it. -/
def textOfPieces? : List Piece → Option (List Char)
  | [] => some []
  | .char c :: rest => (textOfPieces? rest).map (c :: ·)
  | .unit code :: rest =>
      if code < 0xD800 ∨ 0xDFFF < code then
        (textOfPieces? rest).map (Char.ofNat code :: ·)
      else if code < 0xDC00 then
        match rest with
        | .unit low :: rest =>
            if 0xDC00 ≤ low ∧ low ≤ 0xDFFF then
              (textOfPieces? rest).map
                (Char.ofNat (0x10000 + (code - 0xD800) * 0x400 + (low - 0xDC00)) :: ·)
            else
              none
        | _ => none
      else
        none

def stringOfPieces? (pieces : List Piece) : Option String :=
  (textOfPieces? pieces).map String.ofList

/-- Arrays and objects may be nested this deep. -/
def depthLimit : Nat := 127

mutual

/-- The value of a tree with the given depth of nesting left. -/
def Raw.value? (depth : Nat) : Raw → Option Value
  | .null => some .null
  | .bool value => some (.bool value)
  | .number written => if written.overflowsDouble then none else some (.number written)
  | .string pieces => (stringOfPieces? pieces).map .string
  | .array items =>
      match depth with
      | 0 => none
      | depth + 1 => (Raw.values? depth items).map .array
  | .object members =>
      match depth with
      | 0 => none
      | depth + 1 => (Raw.members? depth members).map .object

def Raw.values? (depth : Nat) : List Raw → Option (List Value)
  | [] => some []
  | item :: rest => do
      let value ← Raw.value? depth item
      let values ← Raw.values? depth rest
      return value :: values

def Raw.members? (depth : Nat) : List (List Piece × Raw) → Option (List (String × Value))
  | [] => some []
  | (key, item) :: rest => do
      let name ← stringOfPieces? key
      let value ← Raw.value? depth item
      let values ← Raw.members? depth rest
      return (name, value) :: values

end

namespace Value

/-- The value of a JSON text. -/
def read? (text : String) : Option Value :=
  (Raw.read? text.toList).bind (Raw.value? depthLimit)

def ofInt (value : Int) : Value :=
  .number (Number.ofInt value)

def ofNat (value : Nat) : Value :=
  .number (Number.ofInt value)

/-- The member of an object with the given name; of several the last one counts. -/
def member? (name : String) : Value → Option Value
  | .object members => (members.reverse.find? (·.1 == name)).map (·.2)
  | _ => none

def string? : Value → Option String
  | .string text => some text
  | _ => none

def bool? : Value → Option Bool
  | .bool value => some value
  | _ => none

def array? : Value → Option (List Value)
  | .array items => some items
  | _ => none

def object? : Value → Option (List (String × Value))
  | .object members => some members
  | _ => none

def integer? : Value → Option Int
  | .number written => written.integer?
  | _ => none

def natural? : Value → Option Nat
  | .number written => written.natural?
  | _ => none

end Value

end InlineScript.Json
