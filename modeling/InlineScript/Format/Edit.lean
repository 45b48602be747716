import InlineScript.Document.Report
import InlineScript.Format.Indent
import InlineScript.Format.Layout
import InlineScript.Format.Settings

/-!
Formatting a document: one edit that replaces its script, and the application of edits to a text.
-/

namespace InlineScript.Format

open Text (LineIndex)

/-- A line with indentation in front, unless it is blank. -/
def indentLine (indent line : List Char) : List Char :=
  if Text.isBlankLine line then line else indent ++ line

/-- A layout at the indentation of the script it replaces, on lines of its own. -/
def placed (indent formatted : List Char) : List Char :=
  '\n' :: Text.joinLines ((Text.splitLines formatted).map (indentLine indent))

/-- The text that replaces a script, if it is not empty and can be laid out. -/
def replacement? (settings : Settings) (body : List Char) : Option (List Char) :=
  if body.isEmpty then
    none
  else
    match layout settings.indentUnit body with
    | .error _ => none
    | .ok formatted =>
        some (placed (((detectIndent? body).map Indent.text).getD []) formatted)

/-- The edit that formats a document, with the settings found on a disk. -/
def edits (disk : Disk) (doc : Document) : List TextEdit :=
  match replacement? (Settings.discover disk doc.path) doc.body with
  | none => []
  | some text =>
      [{ range := doc.hostRange 0 doc.textLength, newText := String.ofList text }]

/-- Replaces the bytes between two offsets. -/
def splice (text : List Char) (start stop : Nat) (newText : List Char) : List Char :=
  Text.takeBytes start text ++ newText ++ Text.dropBytes stop text

/-- Applies edits to a text, the last one in it first, so that offsets before it stay valid. -/
def applyEdits (text : List Char) (edits : List TextEdit) : List Char :=
  let index := LineIndex.ofText text
  let placed := edits.map fun edit =>
    (index.offsetAt edit.range.start, index.offsetAt edit.range.stop, edit.newText.toList)
  let ordered := placed.mergeSort (fun first second => second.1 ≤ first.1)
  ordered.foldl (fun result (start, stop, newText) => splice result start stop newText) text

/-- The text of a file after its script has been formatted. -/
def formatFile (disk : Disk) (path : Path) (text : List Char) : List Char :=
  applyEdits text (edits disk (Document.ofHost path text 1))

end InlineScript.Format
