import InlineScript.Json.Value

/-!
Records: JSON objects with a fixed list of members. Other members are passed over, whatever their
values are. A record may also be written as an array of its members in order.
-/

namespace InlineScript.Json.Raw

/-- Objects with their keys as text. -/
def namedMembers? : List (List Piece × Raw) → Option (List (String × Raw))
  | [] => some []
  | (key, value) :: rest => do
      let name ← stringOfPieces? key
      let more ← namedMembers? rest
      return (name, value) :: more

/-- The member with a name, if it occurs once; `none` when it is repeated. -/
def uniqueMember? (members : List (String × Raw)) (name : String) : Option (Option Raw) :=
  match members.filter (·.1 == name) with
  | [] => some none
  | [member] => some (some member.2)
  | _ => none

/-- The members of a record in the order of `names`; of an array, its items, which may be too few
but not too many. -/
def record? (names : List String) : Raw → Option (List (Option Raw))
  | .object members => do
      let named ← namedMembers? members
      names.mapM (uniqueMember? named)
  | .array items => if items.length ≤ names.length then some (items.map some) else none
  | _ => none

def text? : Raw → Option String
  | .string pieces => stringOfPieces? pieces
  | _ => none

def flag? : Raw → Option Bool
  | .bool value => some value
  | _ => none

def count? : Raw → Option Nat
  | .number written => written.natural?
  | _ => none

def texts? : Raw → Option (List String)
  | .array items => items.mapM text?
  | _ => none

/-- A member that may be absent or null. -/
def optional? {α : Type} (read : Raw → Option α) : Option Raw → Option (Option α)
  | none => some none
  | some .null => some none
  | some raw => (read raw).map some

end InlineScript.Json.Raw
