import Std.Data.TreeMap
import InlineScript.Check.Meaning
import InlineScript.Check.Parsing
import InlineScript.Engine.Basic
import InlineScript.QuickInfo.Basic

/-!
The engine for scripts. It parses a file once for each version and keeps the kind that the file had
when it was first seen.
-/

namespace InlineScript

structure ScriptEngine where
  options : CompilerOptions
  /-- The last parsed version of each file. -/
  files : Std.TreeMap Path SourceFile Path.order
  isDisposed : Bool

namespace ScriptEngine

def create (options : CompilerOptions) : ScriptEngine where
  options := options
  files := ∅
  isDisposed := false

/-- Forgets all files; no question is answered any more. -/
def dispose (engine : ScriptEngine) : ScriptEngine where
  options := engine.options
  files := ∅
  isDisposed := true

/-- The kind of a file that is seen for the first time. -/
def firstKind (options : CompilerOptions) (reported : ScriptKind) (path : Path) : ScriptKind :=
  match reported with
  | .unknown =>
      if (Extension.ofPath? path).isNone && !options.allowNonTsExtensions then .external
      else ScriptKind.ofPath path
  | known => known

variable (parser : Parser) (engine : ScriptEngine) (host : EngineHost) (path : Path)

/-- The present version of a file, parsed as a given kind. -/
def parsed (kind : ScriptKind) : Except EngineFault SourceFile :=
  match host.text? path with
  | some text => .ok (SourceFile.parse parser path (host.version path) kind text)
  | none => .error (.missingSource path)

/-- The present version of a file: the one kept, or else the file parsed as the kind it was first
seen as. -/
def current : Except EngineFault SourceFile :=
  if engine.isDisposed then
    .error .disposed
  else if host.names.any path.same then
    match engine.files[path]? with
    | some file =>
        if file.version = host.version path then .ok file else parsed parser host path file.kind
    | none => parsed parser host path (firstKind engine.options (host.kind path) path)
  else
    .error (.unknownFile path)

/-- Keeps a file. -/
def keep (file : SourceFile) : ScriptEngine :=
  { engine with files := engine.files.insert path file }

/-- Answers a question from the present version of a file, which is kept. -/
def ask {α : Type} (answer : SourceFile → α) : Except EngineFault α × ScriptEngine :=
  match current parser engine host path with
  | .ok file => (.ok (answer file), keep engine path file)
  | .error fault => (.error fault, engine)

def syntactic : Except EngineFault (List Finding) × ScriptEngine :=
  ask parser engine host path Check.syntactic

def semantic : Except EngineFault (List Finding) × ScriptEngine :=
  ask parser engine host path fun file => Check.semantic (host.resolve file.path) file

def quickInfo (offset : Nat) : Except EngineFault (Option QuickInfo) × ScriptEngine :=
  ask parser engine host path fun file => file.quickInfo? offset

end ScriptEngine

/-- Engines for scripts that use a parser. -/
def scriptEngine (parser : Parser) : Engine ScriptEngine where
  create := ScriptEngine.create
  options := ScriptEngine.options
  syntactic := ScriptEngine.syntactic parser
  semantic := ScriptEngine.semantic parser
  quickInfo := ScriptEngine.quickInfo parser
  dispose := ScriptEngine.dispose

end InlineScript
