import InlineScript.Check.Finding
import InlineScript.Module.Resolve

/-!
Engines and their hosts. An engine answers questions about the files of a program and keeps what it
has learnt. All it sees of the files it sees through the host that comes with each question.
-/

namespace InlineScript

/-- What an engine can ask about a program. -/
structure EngineHost where
  settings : CompilerOptions
  /-- The files of the program. -/
  names : List Path
  /-- Files are read again when their version changes. -/
  version : Path → String
  /-- The text of a file that is held in memory. -/
  snapshot : Path → Option String
  kind : Path → ScriptKind
  cwd : Path
  /-- The files that imports can reach. -/
  files : Module.Host
  /-- What the names that a file imports mean, one answer for each name. -/
  resolve : Path → List String → List (Option Module.Resolved)

namespace EngineHost

/-- The text of a file, from memory or else from where it is kept. -/
def text? (host : EngineHost) (path : Path) : Option String :=
  (host.snapshot path).or (host.files.fileText path)

end EngineHost

/-- Why a question got no answer. It is never for the lack of a grammar or of a tree: a `Parser` has
both grammars and gives each text a tree. -/
inductive EngineFault where
  | unknownFile (path : Path)
  | missingSource (path : Path)
  | disposed
deriving DecidableEq, Repr

namespace EngineFault

def message : EngineFault → String
  | unknownFile path => "File is not part of the program: " ++ path.text
  | missingSource path => "No source text available for " ++ path.text
  | disposed => "Engine has been disposed"

end EngineFault

/-- A kind of engine, given by what can be done with its states. -/
structure Engine (E : Type) where
  create : CompilerOptions → E
  /-- The options that a state was created with. -/
  options : E → CompilerOptions
  syntactic : E → EngineHost → Path → Except EngineFault (List Finding) × E
  semantic : E → EngineHost → Path → Except EngineFault (List Finding) × E
  quickInfo : E → EngineHost → Path → Nat → Except EngineFault (Option QuickInfo) × E
  dispose : E → E

end InlineScript
