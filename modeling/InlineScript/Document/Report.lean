import InlineScript.Document.Basic
import InlineScript.Check.Finding

/-!
What is said about a document, in positions of its file.
-/

namespace InlineScript

open Text (Range)

inductive Severity where
  | error
  | warning
  | information
  | hint
deriving DecidableEq, Repr

namespace Severity

def ofCategory : Category → Severity
  | .error => error
  | .warning => warning
  | .suggestion => hint
  | .message => information

/-- The number of a severity in messages to an editor. -/
def code : Severity → Nat
  | error => 1
  | warning => 2
  | information => 3
  | hint => 4

/-- The word for a severity in a report to a reader. -/
def word : Severity → String
  | error => "error"
  | warning => "warning"
  | information => "info"
  | hint => "hint"

end Severity

structure Diagnostic where
  range : Range
  severity : Severity
  code : Option String
  source : String
  message : String
deriving DecidableEq, Repr

structure Hover where
  range : Range
  language : String
  value : String
  documentation : Option String
deriving DecidableEq, Repr

structure TextEdit where
  range : Range
  newText : String
deriving DecidableEq, Repr

namespace Document

/-- A finding about the script as a diagnostic of the file. -/
def diagnostic (doc : Document) (dialect : Dialect) (finding : Finding) : Diagnostic where
  range := doc.hostRange finding.span.start finding.span.length
  severity := Severity.ofCategory finding.category
  code := some (toString finding.code)
  source := dialect.label
  message := finding.message

/-- What is known about a symbol of the script, shown in the file. -/
def hover (doc : Document) (dialect : Dialect) (info : QuickInfo) : Hover where
  range := doc.hostRange info.span.start info.span.length
  language := dialect.label
  value := info.display
  documentation := info.documentation

end Document

end InlineScript
