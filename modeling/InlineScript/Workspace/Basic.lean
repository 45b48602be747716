import InlineScript.Disk.Tree
import InlineScript.Json.Value
import InlineScript.Text.Utf8
import InlineScript.Tree.Preorder
import InlineScript.Tree.Source

/-!
A workspace that is handed over as a whole: its files, and the trees of the scripts in them.
-/

namespace InlineScript

open Json (Value)

structure Workspace where
  files : FileTree
  cwd : Path
  parser : Parser

namespace Workspace

/-- The member of an object, or null. -/
def field (value : Value) (name : String) : Value :=
  (value.member? name).getD .null

def text (value : Value) (name : String) : String :=
  (field value name).string?.getD ""

def items (value : Value) (name : String) : List Value :=
  (field value name).array?.getD []

/-! ## Files -/

/-- The bytes that pairs of digits give. -/
def hexBytes : List Char → List UInt8
  | high :: low :: rest =>
      UInt8.ofNat ((Json.Token.hexValue? high).getD 0 * 16 + (Json.Token.hexValue? low).getD 0)
        :: hexBytes rest
  | _ => []

/-- A text is a file, `hex` gives the bytes of one, all else is a directory. -/
def place (value : Value) : FileTree :=
  match value with
  | .string text => .file (some text)
  | _ =>
      match value.member? "hex" with
      | some digits => .file ((Text.Utf8.text? (hexBytes (digits.string?.getD "").toList)).map String.ofList)
      | none => .dir []

/-- Puts a file or directory at a path from the working directory. -/
def putPlace (cwd : Path) (tree : FileTree) (name : String) (content : Value) : FileTree :=
  tree.put (FileTree.namesOf (cwd.child name)) (place content)

/-- A working directory and the files in it. -/
def fileTree (cwd : Path) (value : Value) : FileTree :=
  ((field value "files").object?.getD []).foldl
    (fun tree (name, content) => putPlace cwd tree name content)
    ((FileTree.dir []).put (FileTree.namesOf cwd) (.dir []))

/-! ## Trees -/

/-- A node of a tree: its kind, four marks, its bounds, its role, and the number of the node above
it. -/
def entry? (value : Value) : Option Tree.Entry :=
  match value with
  | .array [kind, marks, start, stop, role, parent] => do
      let marks ← marks.natural?
      return {
        info := {
          kind := ← kind.string?
          named := marks % 2 == 1
          missing := marks / 2 % 2 == 1
          error := marks / 4 % 2 == 1
          hasError := marks / 8 % 2 == 1
          start := ← start.natural?
          stop := ← stop.natural?
          field := ← role.string? }
        parent := parent.natural? }
  | _ => none

/-- The tree of a text that was handed over. -/
structure ParsedText where
  kind : String
  text : String
  tree : Tree

def parsedText? (value : Value) : Option ParsedText := do
  let entries ← (items value "nodes").mapM entry?
  return { kind := text value "kind", text := text value "text", tree := ← Tree.ofPreorder? entries }

/-- A parser that knows the trees of the given texts. -/
def parserOfTexts (known : List ParsedText) : Parser :=
  let find (kind text : String) : Tree :=
    ((known.find? fun parsed => parsed.kind == kind && parsed.text == text).map (·.tree)).getD default
  { untyped := find "js", typed := find "ts" }

def parserOf (value : Value) : Parser :=
  parserOfTexts ((items value "trees").filterMap parsedText?)

/-- Reads a workspace. -/
def ofJson (value : Value) : Workspace :=
  let cwd := Path.ofText (text value "cwd")
  { files := fileTree cwd value, cwd, parser := parserOf value }

def disk (workspace : Workspace) : Disk :=
  workspace.files.disk workspace.cwd

end Workspace

end InlineScript
