import InlineScript.Json.Order
import InlineScript.Shape.Mismatch
import InlineScript.Uri.Reader

/-!
Shapes of JSON values. A value that has a shape is given back with its records as objects, because a
record may also be written as the list of its fields.
-/

namespace InlineScript

open Json (Value)

/-- What a value has to look like. -/
inductive Shape where
  | anything
  | truth
  /-- An integer within bounds. -/
  | integer (name : String) (least greatest : Int)
  /-- Any number. -/
  | real (name : String)
  | text
  | uri
  /-- One of some words. -/
  | word (choices : List String)
  /-- A value that may be null, and a field that may be left out of an object. -/
  | optional (shape : Shape)
  /-- A field that may be left out, also of a list of fields. -/
  | defaulted (shape : Shape)
  /-- A switch, or a value that says more. -/
  | switch (shape : Shape)
  | list (shape : Shape)
  | pair (shape : Shape)
  /-- An object with any names. -/
  | table (shape : Shape)
  /-- An object whose names are URIs. -/
  | uriTable (shape : Shape)
  | record (name : String) (fields : List (String × Shape))
  /-- An object that holds the fields of several groups side by side, apart from its own. What
  nobody else takes may have to have a shape, too. -/
  | merged (name : String) (fields : List (String × Shape))
      (groups : List (List (String × Shape))) (rest : Option Shape)
  /-- The first of some shapes that the value has. -/
  | choice (name : String) (shapes : List Shape)
  /-- Records that a field tells apart. -/
  | tagged (tag : String) (variants : List (String × Shape))

namespace Shape

/-! ## Words for lengths -/

/-- A number of things, as words. -/
def counted (count : Nat) (thing : String) : String :=
  toString count ++ " " ++ thing ++ (if count = 1 then "" else "s")

def recordName (name : String) : String :=
  "struct " ++ name

/-- What is expected where a list of fields ends early. -/
def recordLength (name : String) (size : Nat) : String :=
  recordName name ++ " with " ++ counted size "element"

/-- What is expected where a list of fields goes on. Values that were kept for later are counted
with another word. -/
def listEnd (isKept : Bool) (size : Nat) : String :=
  if isKept then counted size "element" ++ " in sequence" else "fewer elements in array"

/-! ## Fields -/

/-- Whether a field with the shape may be left out of an object. -/
def mayBeMissing : Shape → Bool
  | .optional _ | .defaulted _ => true
  | _ => false

/-- Whether a field with the shape may be left out of a list. -/
def isDefaulted : Shape → Bool
  | .defaulted _ => true
  | _ => false

/-- A field of an object after it was looked for. -/
structure Field where
  name : String
  mayBeMissing : Bool
  found : Option (Except Mismatch Value)

/-- The mismatch in the field that comes first by its name. -/
def firstMismatch? (fields : List Field) : Option Mismatch :=
  (fields.foldl
    (fun (first : Option (String × Mismatch)) field =>
      match field.found with
      | some (.error mismatch) =>
          match first with
          | some (name, _) => if field.name < name then some (field.name, mismatch) else first
          | none => some (field.name, mismatch)
      | _ => first)
    none).map (·.2)

/-- The members of an object from its fields. Mismatches go before missing fields. -/
def gather (fields : List Field) : Except Mismatch (List (String × Value)) :=
  match firstMismatch? fields with
  | some mismatch => .error mismatch
  | none =>
      match fields.find? fun field => field.found.isNone && !field.mayBeMissing with
      | some field => .error (.missing field.name)
      | none =>
          .ok (fields.filterMap fun field =>
            match field.found with
            | some (.ok value) => some (field.name, value)
            | _ => none)

/-- The member with a name. -/
def memberOf? (members : List (String × Value)) (name : String) : Option Value :=
  (members.find? (·.1 == name)).map (·.2)

/-- The members that none of the fields takes. -/
def others (fields : List (String × Shape)) (members : List (String × Value)) :
    List (String × Value) :=
  members.filter fun (name, _) => !fields.any (·.1 == name)

/-! ## Single values -/

def readInteger (name : String) (least greatest : Int) (value : Value) : Except Mismatch Value :=
  match value.integer? with
  | some found =>
      if least ≤ found ∧ found ≤ greatest then .ok value else .error (.wrongValue value name)
  | none => .error (.wrongKind value name)

def readUriText (written : String) : Except Mismatch Unit :=
  match Uri.read written with
  | .ok _ => .ok ()
  | .error fault => .error (.badUri fault written)

def readUri (value : Value) : Except Mismatch Value :=
  match value with
  | .string written => do
      readUriText written
      return value
  | _ => .error (.wrongKind value "a string representing an URL")

/-- A word stands for itself, or names the only member of an object, which is null. -/
def readWord (choices : List String) (value : Value) : Except Mismatch Value :=
  match value with
  | .string chosen =>
      if choices.contains chosen then .ok value else .error (.unknownWord chosen choices)
  | .object [(chosen, content)] =>
      if !choices.contains chosen then .error (.unknownWord chosen choices)
      else
        match content with
        | .null => .ok (.string chosen)
        | _ => .error (.wrongKind content "unit")
  | .object _ => .error (.wrongValue value "map with a single key")
  | _ => .error (.wrongKind value "string or map")

/-- The number of the variant that a tag names or counts. -/
def variantIndex? (names : List String) : Value → Option Nat
  | .string name => names.idxOf? name
  | .number number => number.natural?
  | _ => none

/-! ## Reading -/

mutual

/-- Reads a value, which may have been kept for later. -/
def read (shape : Shape) (isKept : Bool) (value : Value) : Except Mismatch Value :=
  match shape with
  | .anything => .ok value
  | .truth =>
      match value with
      | .bool _ => .ok value
      | _ => .error (.wrongKind value "a boolean")
  | .integer name least greatest => readInteger name least greatest value
  | .real name =>
      match value with
      | .number _ => .ok value
      | _ => .error (.wrongKind value name)
  | .text =>
      match value with
      | .string _ => .ok value
      | _ => .error (.wrongKind value "a string")
  | .uri => readUri value
  | .word choices => readWord choices value
  | .optional shape =>
      match value with
      | .null => .ok .null
      | _ => shape.read isKept value
  | .defaulted shape => shape.read isKept value
  | .switch shape =>
      match value with
      | .null => .ok .null
      | .bool _ => .ok value
      | _ => shape.read false value
  | .list shape =>
      match value with
      | .array items => do return .array (← items.mapM (shape.read isKept))
      | _ => .error (.wrongKind value "a sequence")
  | .pair shape =>
      match value with
      | .array [first, second] => do
          return .array [← shape.read isKept first, ← shape.read isKept second]
      | .array items => .error (.wrongLength items.length "an array of length 2")
      | _ => .error (.wrongKind value "an array of length 2")
  | .table shape =>
      match value with
      | .object members => do
          return .object (← members.mapM fun (name, member) => do
            return (name, ← shape.read isKept member))
      | _ => .error (.wrongKind value "a map")
  | .uriTable shape =>
      match value with
      | .object members => do
          return .object (← members.mapM fun (name, member) => do
            readUriText name
            return (name, ← shape.read isKept member))
      | _ => .error (.wrongKind value "map")
  | .record name fields =>
      match value with
      | .object members => do return .object (← gather (readFields fields isKept members))
      | .array items => do
          let found ← readElements fields isKept (recordLength name fields.length) 0 items
          if fields.length < items.length then
            throw (.wrongLength items.length (listEnd isKept fields.length))
          return .object found
      | _ => .error (.wrongKind value (recordName name))
  | .merged name fields groups rest =>
      match value with
      | .object members => do
          let own ← gather (readFields fields isKept members)
          let (grouped, left) ← readGroups groups (others fields members)
          return .object (own ++ grouped ++ (← readRest rest left))
      | _ => .error (.wrongKind value (recordName name))
  | .choice name shapes =>
      match readChoice shapes value with
      | some found => .ok found
      | none => .error (.noAlternative name)
  | .tagged tag variants =>
      match value with
      | .object members =>
          match (memberOf? members tag).bind (variantIndex? (variants.map (·.1))) with
          | some index => readVariant variants index (.object (others [(tag, .anything)] members))
          | none => .error (.missing tag)
      | .array (first :: items) =>
          match variantIndex? (variants.map (·.1)) first with
          | some index => readVariant variants index (.array items)
          | none => .error (.missing tag)
      | _ => .error (.missing tag)

/-- Looks for each field among the members of an object. -/
def readFields (fields : List (String × Shape)) (isKept : Bool) (members : List (String × Value)) :
    List Field :=
  match fields with
  | [] => []
  | (name, shape) :: rest =>
      { name
        mayBeMissing := shape.mayBeMissing
        found := (memberOf? members name).map (shape.read isKept) }
        :: readFields rest isKept members

/-- Reads the fields of a list one after another. -/
def readElements (fields : List (String × Shape)) (isKept : Bool) (expected : String)
    (position : Nat) (items : List Value) : Except Mismatch (List (String × Value)) :=
  match fields, items with
  | [], _ => .ok []
  | (name, shape) :: rest, item :: items => do
      let found ← shape.read isKept item
      return (name, found) :: (← readElements rest isKept expected (position + 1) items)
  | (_, shape) :: rest, [] =>
      if shape.isDefaulted then readElements rest isKept expected (position + 1) []
      else .error (.wrongLength position expected)

/-- Reads groups of fields one after another; each leaves the members that it does not take. -/
def readGroups (groups : List (List (String × Shape))) (members : List (String × Value)) :
    Except Mismatch (List (String × Value) × List (String × Value)) :=
  match groups with
  | [] => .ok ([], members)
  | fields :: rest => do
      let found ← gather (readFields fields true members)
      let (more, left) ← readGroups rest (others fields members)
      return (found ++ more, left)

/-- Reads the members that are left. -/
def readRest (shape : Option Shape) (members : List (String × Value)) :
    Except Mismatch (List (String × Value)) :=
  match shape with
  | none => .ok []
  | some shape => members.mapM fun (name, member) => do return (name, ← shape.read true member)

/-- The value as the first shape that it has. -/
def readChoice (shapes : List Shape) (value : Value) : Option Value :=
  match shapes with
  | [] => none
  | shape :: rest =>
      match shape.read true value with
      | .ok found => some found
      | .error _ => readChoice rest value

/-- Reads the value of the variant with a number. -/
def readVariant (variants : List (String × Shape)) (index : Nat) (value : Value) :
    Except Mismatch Value :=
  match variants, index with
  | [], _ => .error (.noAlternative "")
  | (_, shape) :: _, 0 => shape.read true value
  | _ :: rest, index + 1 => readVariant rest index value

end

end Shape

end InlineScript
