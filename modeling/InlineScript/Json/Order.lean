import InlineScript.Json.Value

/-!
Values with the members of objects in the order of their names, each name once.
-/

namespace InlineScript.Json.Value

/-- Puts a member in front of the first one with a greater name. A later member of the same name
counts instead of it. -/
def insertMember (name : String) (value : Value) : List (String × Value) → List (String × Value)
  | [] => [(name, value)]
  | (other, found) :: rest =>
      if name = other then (other, found) :: rest
      else if name < other then (name, value) :: (other, found) :: rest
      else (other, found) :: insertMember name value rest

mutual

/-- The value with its objects in order. -/
def ordered : Value → Value
  | .array items => .array (orderedItems items)
  | .object members => .object (orderedMembers members)
  | .null => .null
  | .bool value => .bool value
  | .number written => .number written
  | .string text => .string text

def orderedItems : List Value → List Value
  | [] => []
  | item :: rest => item.ordered :: orderedItems rest

def orderedMembers : List (String × Value) → List (String × Value)
  | [] => []
  | (name, value) :: rest => insertMember name value.ordered (orderedMembers rest)

end

end InlineScript.Json.Value
