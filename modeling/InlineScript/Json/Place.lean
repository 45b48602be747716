import InlineScript.Json.Value
import InlineScript.Text.Position

/-!
Positions and ranges of a text as JSON.
-/

namespace InlineScript.Json.Value

open Text (Position Range)

def ofPosition (position : Position) : Value :=
  .object [("line", .ofNat position.line), ("character", .ofNat position.character)]

def ofRange (range : Range) : Value :=
  .object [("start", ofPosition range.start), ("end", ofPosition range.stop)]

end InlineScript.Json.Value
