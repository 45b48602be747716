import InlineScript.Script.Dialect
import InlineScript.Text.Bytes

/-!
The state of a script at one version.
-/

namespace InlineScript

structure Snapshot where
  text : String
  dialect : Dialect
  version : Nat
deriving DecidableEq, Repr

namespace Snapshot

/-- Length in bytes. -/
def length (snapshot : Snapshot) : Nat :=
  Text.byteLength snapshot.text.toList

def isEmpty (snapshot : Snapshot) : Bool :=
  snapshot.text.isEmpty

/-- The text between two byte offsets, which are moved back to the end of the text and to character
boundaries. -/
def slice (snapshot : Snapshot) (start stop : Nat) : String :=
  String.ofList (Text.slice snapshot.text.toList start stop)

end Snapshot

end InlineScript
