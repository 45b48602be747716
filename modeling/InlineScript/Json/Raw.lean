import InlineScript.Json.Token

/-!
JSON texts as trees, before strings and numbers are given a value. Any depth of nesting is read.
-/

namespace InlineScript.Json

inductive Raw where
  | null
  | bool (value : Bool)
  | number (number : Number)
  | string (pieces : List Piece)
  | array (items : List Raw)
  | object (members : List (List Piece × Raw))
deriving Repr, Inhabited

namespace Raw

/-- An array or object that is still open; what it holds so far has the last part first. -/
inductive Frame where
  | array (items : List Raw)
  | object (members : List (List Piece × Raw)) (key : List Piece)

/-- What the next token may be. -/
inductive Expect where
  /-- A value; directly behind an opening bracket also its closing one. -/
  | value (mayClose : Bool)
  /-- A key of the members read so far; directly behind an opening brace also its closing one. -/
  | key (members : List (List Piece × Raw)) (mayClose : Bool)
  | colon
  | separator
  | finished (value : Raw)

/-- Hands a complete value to the innermost open frame. -/
def complete (value : Raw) : List Frame → Expect × List Frame
  | [] => (.finished value, [])
  | .array items :: frames => (.separator, .array (value :: items) :: frames)
  | .object members key :: frames => (.separator, .object ((key, value) :: members) [] :: frames)

/-- One token. -/
def step? : Expect → List Frame → Token → Option (Expect × List Frame)
  | .value _, frames, .null => some (complete .null frames)
  | .value _, frames, .bool value => some (complete (.bool value) frames)
  | .value _, frames, .number written => some (complete (.number written) frames)
  | .value _, frames, .string pieces => some (complete (.string pieces) frames)
  | .value _, frames, .openBracket => some (.value true, .array [] :: frames)
  | .value _, frames, .openBrace => some (.key [] true, frames)
  | .value true, .array items :: frames, .closeBracket =>
      some (complete (.array items.reverse) frames)
  | .key members _, frames, .string pieces => some (.colon, .object members pieces :: frames)
  | .key members true, frames, .closeBrace => some (complete (.object members.reverse) frames)
  | .colon, frames, .colon => some (.value false, frames)
  | .separator, .array items :: frames, .comma => some (.value false, .array items :: frames)
  | .separator, .array items :: frames, .closeBracket =>
      some (complete (.array items.reverse) frames)
  | .separator, .object members _ :: frames, .comma => some (.key members false, frames)
  | .separator, .object members _ :: frames, .closeBrace =>
      some (complete (.object members.reverse) frames)
  | _, _, _ => none

def ofTokens? : Expect → List Frame → List Token → Option Raw
  | .finished value, _, [] => some value
  | _, _, [] => none
  | expect, frames, token :: tokens =>
      match step? expect frames token with
      | none => none
      | some (next, remaining) => ofTokens? next remaining tokens

/-- The tree of a JSON text, if it is one. -/
def read? (text : List Char) : Option Raw :=
  (Token.read? text).bind (ofTokens? (.value false) [])

end Raw

end InlineScript.Json
