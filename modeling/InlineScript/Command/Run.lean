import InlineScript.Command.Arguments
import InlineScript.Command.Report
import InlineScript.Engine.Script
import InlineScript.Format.Edit
import InlineScript.Session.Manager

/-!
Commands and what they bring about.
-/

namespace InlineScript

/-- What a command prints and writes, and how it ends. -/
structure Outcome where
  code : Nat
  out : String
  err : String
  /-- Files that get another text, first one first. -/
  writes : List (Path × String)
deriving DecidableEq, Repr

/-- Why a command failed. -/
inductive CommandFault where
  | unreadable (path : Path) (fault : ReadFault)
  | errorsFound (count : Nat)
deriving DecidableEq, Repr

namespace CommandFault

def message : CommandFault → String
  | unreadable path fault =>
      "Failed to read " ++ path.text ++ "\n\nCaused by:\n    " ++ fault.message
  | errorsFound count => toString count ++ " error(s) found"

end CommandFault

namespace Outcome

/-- A command that printed a text and did its work. -/
def success (out : String) : Outcome where
  code := 0
  out := out
  err := ""
  writes := []

/-- A command that printed a text before it failed. -/
def failure (out : String) (fault : CommandFault) : Outcome where
  code := 1
  out := out
  err := "Error: " ++ fault.message ++ "\n"
  writes := []

/-- A command that was misused. -/
def misuse : Outcome where
  code := 2
  out := ""
  err := ""
  writes := []

/-- What comes before an outcome. -/
def after (out : String) (writes : List (Path × String)) (rest : Outcome) : Outcome :=
  { rest with out := out ++ rest.out, writes := writes ++ rest.writes }

/-- The disk after a command. -/
def disk (before : Disk) (outcome : Outcome) : Disk :=
  outcome.writes.foldl (fun disk (path, text) => disk.overwrite path text) before

end Outcome

namespace Command

variable (parser : Parser) (disk : Disk)

/-- Checks files one after another in one session. -/
def checkFiles (manager : Manager ScriptEngine) : List String → Except CommandFault (List FileReport)
  | [] => .ok []
  | name :: rest =>
      let path := disk.absolute (Path.ofText name)
      match disk.read path with
      | .error fault => .error (.unreadable path fault)
      | .ok text => do
          let doc := Document.ofHost path text.toList 1
          let (diagnostics, manager) := manager.diagnostics (scriptEngine parser) disk doc
          let reports ← checkFiles manager rest
          return { file := path, diagnostics } :: reports

/-- The reports about files of a workspace. -/
def reports (workspace : Path) (files : List String) : Except CommandFault (List FileReport) :=
  checkFiles parser disk (Manager.ofWorkspace (disk.absolute workspace)) files

/-- How reports are printed. -/
def printReports (json : Bool) (reports : List FileReport) : String :=
  if json then
    (Json.Value.array (reports.map FileReport.json)).pretty 0 ++ "\n"
  else
    String.join ((reports.flatMap FileReport.lines).map (· ++ "\n"))

/-- Prints what is wrong with files. It fails if there are errors. -/
def check (workspace : Path) (files : List String) (json : Bool) : Outcome :=
  match reports parser disk workspace files with
  | .error fault => .failure "" fault
  | .ok reports =>
      let out := printReports json reports
      let errors := reports.foldr (fun report count => report.errorCount + count) 0
      if errors = 0 then .success out else .failure out (.errorsFound errors)

/-- Formats files one after another. They are printed, or written where their text changes; a file
that comes again has the text that was written. -/
def format (write : Bool) (disk : Disk) : List String → Outcome
  | [] => .success ""
  | name :: rest =>
      let path := disk.absolute (Path.ofText name)
      match disk.read path with
      | .error fault => .failure "" (.unreadable path fault)
      | .ok text =>
          let formatted := String.ofList (Format.formatFile disk path text.toList)
          if !write then
            Outcome.after formatted [] (format write disk rest)
          else if formatted = text then
            format write disk rest
          else
            Outcome.after "" [(path, formatted)] (format write (disk.overwrite path formatted) rest)

/-- The program's name and version. -/
def versionText : String := "embedscript 0.1.0\n"

/-- Runs a command. Serving an editor ends well when the editor says nothing. -/
def execute : Command → Outcome
  | .version => .success versionText
  | .run workspace job =>
      match job with
      | .check files json => check parser disk (workspace.elim disk.cwd Path.ofText) files json
      | .format files write => format write disk files
      | .serve => .success ""

/-- Runs the command that arguments give. -/
def executeArguments (arguments : List String) : Outcome :=
  match ofArguments? arguments with
  | some command => execute parser disk command
  | none => .misuse

end Command

end InlineScript
