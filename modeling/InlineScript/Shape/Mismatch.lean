import InlineScript.Json.Writer
import InlineScript.Text.Quoted
import InlineScript.Uri.Basic

/-!
Why a value does not have the shape that was asked for.
-/

namespace InlineScript

open Json (Value)

inductive Mismatch where
  /-- Another kind of value was expected. -/
  | wrongKind (found : Value) (expected : String)
  /-- The kind is right, the value is not. -/
  | wrongValue (found : Value) (expected : String)
  | wrongLength (length : Nat) (expected : String)
  | missing (field : String)
  | unknownWord (word : String) (known : List String)
  | noAlternative (name : String)
  | badUri (fault : UriFault) (text : String)

namespace Mismatch

/-- A name between the marks that set it off from the words around it. -/
def marked (name : String) : String :=
  "`" ++ name ++ "`"

/-- A value in a few words. -/
def describe : Value → String
  | .null => "null"
  | .bool value => "boolean " ++ marked (if value then "true" else "false")
  | .number number =>
      (if number.integer?.isSome then "integer " else "floating point ") ++ marked number.render
  | .string text => "string " ++ Text.quoted text
  | .array _ => "sequence"
  | .object _ => "map"

/-- The words that are known, as a list in a sentence. -/
def oneOf : List String → String
  | [] => "there are no variants"
  | [word] => "expected " ++ marked word
  | [first, second] => "expected " ++ marked first ++ " or " ++ marked second
  | words => "expected one of " ++ String.intercalate ", " (words.map marked)

def message : Mismatch → String
  | wrongKind found expected => "invalid type: " ++ describe found ++ ", expected " ++ expected
  | wrongValue found expected => "invalid value: " ++ describe found ++ ", expected " ++ expected
  | wrongLength length expected =>
      "invalid length " ++ toString length ++ ", expected " ++ expected
  | missing field => "missing field " ++ marked field
  | unknownWord word known => "unknown variant " ++ marked word ++ ", " ++ oneOf known
  | noAlternative name => "data did not match any variant of untagged enum " ++ name
  | badUri fault text => fault.message ++ ": " ++ Text.quoted text

end Mismatch

end InlineScript
