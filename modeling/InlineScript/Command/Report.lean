import InlineScript.Document.Report
import InlineScript.Json.Place
import InlineScript.Json.Writer

/-!
What was found in files, as lines and as JSON.
-/

namespace InlineScript

open Json (Value)

/-- What was found in a file. -/
structure FileReport where
  file : Path
  diagnostics : List Diagnostic
deriving DecidableEq, Repr

namespace FileReport

/-- The number of errors. -/
def errorCount (report : FileReport) : Nat :=
  report.diagnostics.countP (·.severity == .error)

/-- A diagnostic on a line, with lines and columns counted from one. -/
def line (file : Path) (found : Diagnostic) : String :=
  file.text ++ ":" ++ toString (found.range.start.line + 1) ++ ":"
    ++ toString (found.range.start.character + 1) ++ ": " ++ found.severity.word ++ " "
    ++ found.source ++ (found.code.elim "" fun code => "(" ++ code ++ ")") ++ ": " ++ found.message

def lines (report : FileReport) : List String :=
  report.diagnostics.map (line report.file)

def severityName : Severity → String
  | .error => "error"
  | .warning => "warning"
  | .information => "information"
  | .hint => "hint"

def diagnosticJson (found : Diagnostic) : Value :=
  .object
    ([("range", .ofRange found.range), ("severity", .string (severityName found.severity))]
      ++ (found.code.map fun code => ("code", .string code)).toList
      ++ [("source", .string found.source), ("message", .string found.message)])

def json (report : FileReport) : Value :=
  .object
    [("file", .string report.file.text),
     ("diagnostics", .array (report.diagnostics.map diagnosticJson))]

end FileReport

end InlineScript
