/-!
Text as bytes. Bytes that are no text are read as replacement characters, one for each run that
could have begun a character.
-/

namespace InlineScript.Text.Utf8

/-- The bytes of a text. -/
def encode (text : List Char) : List UInt8 :=
  text.flatMap String.utf8EncodeChar

/-- What stands for bytes that are no text. -/
def replacement : Char := '\ufffd'

/-- A character of which some bytes were read. -/
structure Pending where
  /-- How many bytes it still needs. -/
  owed : Nat
  /-- The least value of the next byte. -/
  least : Nat
  /-- The greatest value of the next byte. -/
  greatest : Nat
  /-- The value of the bytes so far. -/
  value : Nat
deriving DecidableEq, Repr

/-- A byte where a character may begin: characters read by it, and the one it begins. -/
def begins (byte : Nat) : List Char × Option Pending :=
  if byte < 0x80 then ([Char.ofNat byte], none)
  else if 0xC2 ≤ byte ∧ byte ≤ 0xDF then ([], some ⟨1, 0x80, 0xBF, byte - 0xC0⟩)
  else if byte = 0xE0 then ([], some ⟨2, 0xA0, 0xBF, 0⟩)
  else if byte = 0xED then ([], some ⟨2, 0x80, 0x9F, 0xD⟩)
  else if 0xE1 ≤ byte ∧ byte ≤ 0xEF then ([], some ⟨2, 0x80, 0xBF, byte - 0xE0⟩)
  else if byte = 0xF0 then ([], some ⟨3, 0x90, 0xBF, 0⟩)
  else if byte = 0xF4 then ([], some ⟨3, 0x80, 0x8F, 4⟩)
  else if 0xF1 ≤ byte ∧ byte ≤ 0xF3 then ([], some ⟨3, 0x80, 0xBF, byte - 0xF0⟩)
  else ([replacement], none)

/-- A byte after the first ones of a character. -/
def continues (state : Pending) (byte : Nat) : List Char × Option Pending :=
  if state.least ≤ byte ∧ byte ≤ state.greatest then
    let value := state.value * 64 + (byte - 0x80)
    if state.owed ≤ 1 then ([Char.ofNat value], none)
    else ([], some ⟨state.owed - 1, 0x80, 0xBF, value⟩)
  else
    let (chars, next) := begins byte
    (replacement :: chars, next)

/-- The text of bytes after those of `state`. -/
def decodeFrom : Option Pending → List UInt8 → List Char
  | none, [] => []
  | some _, [] => [replacement]
  | none, byte :: rest =>
      let (chars, next) := begins byte.toNat
      chars ++ decodeFrom next rest
  | some state, byte :: rest =>
      let (chars, next) := continues state byte.toNat
      chars ++ decodeFrom next rest

/-- The text of bytes. -/
def decode (bytes : List UInt8) : List Char :=
  decodeFrom none bytes

/-- The text of bytes, if they are one. -/
def text? (bytes : List UInt8) : Option (List Char) :=
  let text := decode bytes
  if encode text = bytes then some text else none

end InlineScript.Text.Utf8
