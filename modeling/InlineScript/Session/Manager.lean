import InlineScript.Document.Report
import InlineScript.Session.Files

/-!
Sessions. A manager holds the scripts of a workspace and one engine that answers questions about
them. The engine starts with the first script or question. It takes over changed texts by itself,
but not a changed dialect: then another engine takes its place and the scripts stay.
-/

namespace InlineScript

/-- An engine at work. -/
structure EngineSession (E : Type) where
  /-- No two sessions of a manager have the same number. -/
  id : Nat
  engine : E
  options : CompilerOptions

namespace EngineSession

def create {E : Type} (maker : Engine E) (id : Nat) (options : CompilerOptions) : EngineSession E where
  id := id
  engine := maker.create options
  options := options

end EngineSession

/-- What a manager did with an engine, known by its session. -/
inductive EngineCall where
  | create (session : Nat)
  | dispose (session : Nat)
  | syntactic (session : Nat) (version : String)
  | semantic (session : Nat) (version : String)
  | quickInfo (session : Nat) (offset : Nat)
deriving DecidableEq, Repr

/-- A project, its scripts, and the engine for them. -/
structure ActiveSession (E : Type) where
  config : Project.Config
  table : Table
  session : EngineSession E

namespace ActiveSession

variable {E : Type} (maker : Engine E) (disk : Disk)

def start (config : Project.Config) (id : Nat) : ActiveSession E where
  config := config
  table := Table.ofProjectFiles config.fileNames
  session := EngineSession.create maker id config.options

def host (active : ActiveSession E) : EngineHost :=
  active.table.host disk active.config

/-- The session goes on with another state of its engine. -/
def withEngine (active : ActiveSession E) (engine : E) : ActiveSession E :=
  { active with session := { active.session with engine } }

end ActiveSession

structure Manager (E : Type) where
  workspaceRoot : Path
  /-- The configuration, if it is not looked for. -/
  preset : Option Project.Config
  active : Option (ActiveSession E)
  /-- How often a changed dialect replaced the engine. -/
  restartCount : Nat
  /-- The number of the next session. -/
  nextSession : Nat
  /-- All that was done with engines, first call first. -/
  calls : List EngineCall

/-- What became of a script that was handed in. -/
inductive UpdateOutcome where
  | created
  | updated
  /-- The numbers are those of the session before and after. -/
  | restarted (previous current : Nat)
deriving DecidableEq, Repr

namespace Manager

variable {E : Type}

/-- A manager that looks for the configuration of a directory when it is first used. -/
def ofWorkspace (root : Path) : Manager E where
  workspaceRoot := root
  preset := none
  active := none
  restartCount := 0
  nextSession := 1
  calls := []

/-- A manager with a fixed configuration. -/
def ofConfig (config : Project.Config) : Manager E :=
  { ofWorkspace config.root with preset := some config }

variable (maker : Engine E) (disk : Disk) (manager : Manager E)

/-- The configuration that a session starts with. -/
def startConfig : Project.Config :=
  manager.preset.getD (Project.Config.discover disk manager.workspaceRoot)

/-- The session, which is started if there is none. -/
def activate : ActiveSession E × Manager E :=
  match manager.active with
  | some active => (active, manager)
  | none =>
      let active := ActiveSession.start maker (manager.startConfig disk) manager.nextSession
      (active,
       { manager with
         active := some active
         nextSession := manager.nextSession + 1
         calls := manager.calls ++ [.create manager.nextSession] })

/-- Puts another engine in the place of a session's. That one is disposed and dropped at once. Nobody
sees the state in which `Engine.dispose` leaves it, so only the journal tells of it. -/
def restart (active : ActiveSession E) : Manager E :=
  { manager with
    active := some
      { active with
        session := EngineSession.create maker manager.nextSession active.session.options }
    restartCount := manager.restartCount + 1
    nextSession := manager.nextSession + 1
    calls := manager.calls ++ [.dispose active.session.id, .create manager.nextSession] }

/-- Stores the state of a document's script. A changed dialect replaces the engine. -/
def update (doc : Document) : UpdateOutcome × Manager E :=
  let (active, manager) := manager.activate maker disk
  let version := active.table.nextVersion doc.path doc.version
  let (previous, table) :=
    active.table.put doc.path { text := doc.text, dialect := doc.dialect, version }
  let stored := { active with table }
  match previous with
  | none => (.created, { manager with active := some stored })
  | some dialect =>
      if dialect = doc.dialect then
        (.updated, { manager with active := some stored })
      else
        (.restarted active.session.id manager.nextSession, manager.restart maker stored)

/-- The last state of a document's script that was stored. -/
def stored? (doc : Document) : Option Snapshot :=
  manager.active.bind fun active => active.table.snapshot? doc.path

/-- Whether the stored state of a script is the one that a document has. -/
def isCurrent (doc : Document) : Bool :=
  match manager.stored? doc with
  | none => false
  | some snapshot => snapshot.dialect == doc.dialect && snapshot.text == doc.text

/-- Stores the state of a document's script unless it is stored already. -/
def sync (doc : Document) : Manager E :=
  if manager.isCurrent doc then manager else (manager.update maker disk doc).2

/-- The findings of an answer; none where there was no answer. -/
def findings (answer : Except EngineFault (List Finding)) : List Finding :=
  match answer with
  | .ok found => found
  | .error _ => []

/-- Syntactic problems of a document, then semantic ones, each by their place. -/
def diagnostics (doc : Document) : List Diagnostic × Manager E :=
  let (active, manager) := (manager.sync maker disk doc).activate maker disk
  let host := active.host disk
  let path := doc.path.normalize
  let id := active.session.id
  let (syntactic, engine) := maker.syntactic active.session.engine host path
  let (semantic, engine) := maker.semantic engine host path
  let found := Finding.sort (findings syntactic) ++ Finding.sort (findings semantic)
  (found.map (doc.diagnostic doc.dialect),
   { manager with
     active := some (active.withEngine engine)
     calls := manager.calls
       ++ [.syntactic id (host.version path), .semantic id (host.version path)] })

/-- What is known about the symbol at a position of a document. -/
def hover (doc : Document) (position : Text.Position) : Option Hover × Manager E :=
  let manager := manager.sync maker disk doc
  if doc.contains position then
    let (active, manager) := manager.activate maker disk
    let offset := doc.offsetAt position
    let (info, engine) :=
      maker.quickInfo active.session.engine (active.host disk) doc.path.normalize offset
    let manager :=
      { manager with
        active := some (active.withEngine engine)
        calls := manager.calls ++ [.quickInfo active.session.id offset] }
    match info with
    | .ok info => (info.map (doc.hover doc.dialect), manager)
    | .error _ => (none, manager)
  else
    (none, manager)

/-- A closed document stays stored, so that others can go on importing it. -/
def close (_doc : Document) : Manager E :=
  manager

/-- Ends the session and forgets all scripts. The engine is disposed and dropped, as in `restart`. -/
def reset : Manager E :=
  match manager.active with
  | none => manager
  | some active =>
      { manager with
        active := none
        calls := manager.calls ++ [.dispose active.session.id] }

/-- The number of the session. -/
def sessionId? : Option Nat :=
  manager.active.map fun active => active.session.id

/-- The version that the engine sees of a file. -/
def version (path : Path) : Nat :=
  match manager.active with
  | some active => active.table.version path
  | none => 0

/-- The files of the program in order. -/
def knownFiles : List Path :=
  match manager.active with
  | some active => active.table.files
  | none => []

end Manager

end InlineScript
