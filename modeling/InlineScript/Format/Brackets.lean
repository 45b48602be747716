/-!
Brackets of a script, read one character at a time. Brackets in comments, in strings and in the
literal parts of templates do not count; those in the `$` groups of a template do.
-/

namespace InlineScript.Format

/-- What stands open. -/
inductive Opener where
  | paren
  | bracket
  | brace
  /-- A group in a template. -/
  | substitution
deriving DecidableEq, Repr

namespace Opener

/-- The character that names an opener in messages. -/
def char : Opener → Char
  | paren => '('
  | bracket => '['
  | brace => '\x7b'
  | substitution => '$'

end Opener

/-- Where the reader stands between two characters. -/
inductive Mode where
  | code
  /-- In code, behind a slash that may open a comment. -/
  | slash
  | lineComment
  /-- In a block comment; `star` tells whether the last character was one. -/
  | comment (star : Bool)
  | string (mark : Char) (escaped : Bool)
  | template
  | templateEscape
  /-- In the literal part of a template, behind a dollar sign that may open a group. -/
  | templateDollar
deriving DecidableEq, Repr

/-- A mode and what stands open, innermost first. -/
structure Scan where
  mode : Mode
  opened : List Opener
deriving DecidableEq, Repr

namespace Scan

def start : Scan where
  mode := .code
  opened := []

/-- How many brackets stand open; groups of templates are none. -/
def depth (scan : Scan) : Nat :=
  scan.opened.countP (· != .substitution)

def isCloser (c : Char) : Bool :=
  c == ')' || c == ']' || c == '\x7d'

/-- A closing bracket in code. It has to fit what was opened last; a brace that ends a group leads
back into the template. -/
def close? : List Opener → Char → Option Scan
  | .paren :: opened, ')' => some { mode := .code, opened }
  | .bracket :: opened, ']' => some { mode := .code, opened }
  | .brace :: opened, '\x7d' => some { mode := .code, opened }
  | .substitution :: opened, '\x7d' => some { mode := .template, opened }
  | _, _ => none

/-- A character of code. -/
def stepCode? (opened : List Opener) (c : Char) : Option Scan :=
  if c = '/' then some { mode := .slash, opened }
  else if c = '"' ∨ c = '\'' then some { mode := .string c false, opened }
  else if c = '\x60' then some { mode := .template, opened }
  else if c = '(' then some { mode := .code, opened := .paren :: opened }
  else if c = '[' then some { mode := .code, opened := .bracket :: opened }
  else if c = '\x7b' then some { mode := .code, opened := .brace :: opened }
  else if isCloser c then close? opened c
  else some { mode := .code, opened }

/-- A character of the literal part of a template. -/
def stepTemplate (opened : List Opener) (c : Char) : Scan :=
  if c = '\\' then { mode := .templateEscape, opened }
  else if c = '\x60' then { mode := .code, opened }
  else if c = '$' then { mode := .templateDollar, opened }
  else { mode := .template, opened }

/-- One character; nothing at a closing bracket that does not fit. -/
def step? (scan : Scan) (c : Char) : Option Scan :=
  match scan.mode with
  | .code => stepCode? scan.opened c
  | .slash =>
      if c = '/' then some { scan with mode := .lineComment }
      else if c = '*' then some { scan with mode := .comment false }
      else stepCode? scan.opened c
  | .lineComment => some scan
  | .comment star =>
      if star && c == '/' then some { scan with mode := .code }
      else some { scan with mode := .comment (c == '*') }
  | .string mark true => some { scan with mode := .string mark false }
  | .string mark false =>
      if c = '\\' then some { scan with mode := .string mark true }
      else if c = mark then some { scan with mode := .code }
      else some scan
  | .template => some (stepTemplate scan.opened c)
  | .templateEscape => some { scan with mode := .template }
  | .templateDollar =>
      if c = '\x7b' then some { mode := .code, opened := .substitution :: scan.opened }
      else some (stepTemplate scan.opened c)

/-- The characters of a line. A closing bracket that does not fit is the error. -/
def run : Scan → List Char → Except Char Scan
  | scan, [] => .ok scan
  | scan, c :: rest =>
      match scan.step? c with
      | none => .error c
      | some next => run next rest

/-- The end of a line ends line comments and strings, and what only begins to be something. -/
def endLine (scan : Scan) : Scan :=
  match scan.mode with
  | .code | .slash | .lineComment | .string _ _ => { scan with mode := .code }
  | .comment _ => { scan with mode := .comment false }
  | .template | .templateEscape | .templateDollar => { scan with mode := .template }

end Scan

end InlineScript.Format
