import InlineScript.Format.Brackets
import InlineScript.Text.Blank
import InlineScript.Text.Lines

/-!
Layout of a script. Each line of code is indented by the number of brackets that stand open where
it starts, less the closing ones it starts with. Lines of a template stay as they are. Blank lines
of code are kept one at a time and not at either end.
-/

namespace InlineScript.Format

/-- Why a script cannot be laid out. -/
inductive Fault where
  | unbalanced (line : Nat) (found : Char)
  | unclosed (opener : Opener)
  | unterminated
deriving DecidableEq, Repr

namespace Fault

def message : Fault → String
  | unbalanced line found => "unexpected '" ++ found.toString ++ "' on line " ++ toString line
  | unclosed opener => "'" ++ opener.char.toString ++ "' is never closed"
  | unterminated => "unterminated comment or template literal"

end Fault

/-- A line of the layout. -/
inductive Row where
  /-- A blank line of code. -/
  | gap
  | line (text : List Char)
deriving DecidableEq, Repr

/-- A number of copies of a text. -/
def repeated (count : Nat) (text : List Char) : List Char :=
  (List.replicate count text).flatten

/-- The row for a line of code without the blanks around it. -/
def codeRow (unit : List Char) (scan : Scan) (trimmed : List Char) : Row :=
  if trimmed.isEmpty then
    .gap
  else
    let closers := (trimmed.takeWhile Scan.isCloser).length
    .line (repeated (scan.depth - closers) unit ++ trimmed)

/-- The row for a line of a block comment without the blanks around it; stars are aligned. -/
def commentRow (unit : List Char) (scan : Scan) (trimmed : List Char) : Row :=
  match trimmed with
  | [] => .line []
  | '*' :: _ => .line (repeated scan.depth unit ++ ' ' :: trimmed)
  | _ => .line (repeated scan.depth unit ++ trimmed)

/-- The row for a line, given where the reader stands at its start, and the text read from it. -/
def rowOf (unit : List Char) (scan : Scan) (line : List Char) : Row × List Char :=
  match scan.mode with
  | .template => (.line line, line)
  | .comment _ => (commentRow unit scan (Text.trim line), Text.trim line)
  | _ => (codeRow unit scan (Text.trim line), Text.trim line)

/-- What is wrong when the text ends here. -/
def atEnd (scan : Scan) : Except Fault Unit :=
  match scan.mode, scan.opened with
  | .code, [] => .ok ()
  | .code, opener :: _ => .error (.unclosed opener)
  | _, _ => .error .unterminated

/-- The rows of the lines from the one with the given number on. -/
def rows (unit : List Char) : Nat → Scan → List (List Char) → Except Fault (List Row)
  | _, scan, [] =>
      match atEnd scan with
      | .ok () => .ok []
      | .error fault => .error fault
  | number, scan, line :: rest =>
      match scan.run (rowOf unit scan line).2 with
      | .error found => .error (.unbalanced number found)
      | .ok next =>
          match rows unit (number + 1) next.endLine rest with
          | .ok more => .ok ((rowOf unit scan line).1 :: more)
          | .error fault => .error fault

/-- The lines of a layout. A gap counts only behind a line that is not empty. -/
def collapse : Bool → List Row → List (List Char)
  | _, [] => []
  | full, .gap :: rest => if full then [] :: collapse false rest else collapse false rest
  | _, .line text :: rest => text :: collapse (!text.isEmpty) rest

/-- The lines without empty ones at the end. -/
def dropEmptyEnd (lines : List (List Char)) : List (List Char) :=
  (lines.reverse.dropWhile List.isEmpty).reverse

/-- A text of the given lines, each with a line feed. -/
def assemble (lines : List (List Char)) : List Char :=
  if lines.isEmpty then [] else Text.joinLines lines ++ ['\n']

/-- The layout of a script with the given unit of indentation. -/
def layout (unit : List Char) (text : List Char) : Except Fault (List Char) :=
  match rows unit 1 .start (Text.lines text) with
  | .ok rows => .ok (assemble (dropEmptyEnd (collapse false rows)))
  | .error fault => .error fault

end InlineScript.Format
