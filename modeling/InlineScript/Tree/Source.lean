import InlineScript.Script.Kind
import InlineScript.Tree.Basic

/-!
Parsed files.
-/

namespace InlineScript

/-- A parser: the tree of a text, for each of the two languages. -/
structure Parser where
  untyped : String → Tree
  typed : String → Tree

/-- One file at one version, and the tree of its text. -/
structure SourceFile where
  path : Path
  version : String
  kind : ScriptKind
  text : String
  /-- Files that are not parsed have none. -/
  tree : Option Tree

namespace SourceFile

/-- The tree of a text read as a kind of script. -/
def treeOf (parser : Parser) (kind : ScriptKind) (text : String) : Option Tree :=
  match kind with
  | .ts => some (parser.typed text)
  | .js | .unknown => some (parser.untyped text)
  | .external => none

def parse (parser : Parser) (path : Path) (version : String) (kind : ScriptKind) (text : String) :
    SourceFile where
  path := path
  version := version
  kind := kind
  text := text
  tree := treeOf parser kind text

/-- The text of a file, to be cut at the bounds of nodes. -/
def cuts (file : SourceFile) : Text.Cuts :=
  Text.Cuts.ofText file.text.toList

def isTyped (file : SourceFile) : Bool :=
  file.kind == .ts

end SourceFile

end InlineScript
