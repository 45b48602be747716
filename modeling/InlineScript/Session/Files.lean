import InlineScript.Engine.Basic
import InlineScript.Module.Bridge
import InlineScript.Project.Config
import InlineScript.Session.Table

/-!
The files of a session as an engine sees them: scripts in memory hide what the disk has under the
same path.
-/

namespace InlineScript.Table

variable (disk : Disk) (table : Table)

def fileExists (path : Path) : Bool :=
  table.isTracked path || disk.isFile path

def fileText? (path : Path) : Option String :=
  match table.snapshot? path with
  | some snapshot => some snapshot.text
  | none => disk.text? path

/-- The files that imports can reach. -/
def moduleHost : Module.Host where
  fileExists := table.fileExists disk
  fileText := table.fileText? disk

/-- The host of an engine for a project. -/
def host (config : Project.Config) : EngineHost where
  settings := config.options
  names := table.files
  version path := toString (table.version path)
  snapshot path := (table.snapshot? path).map Snapshot.text
  kind path := (table.dialect? path).elim .unknown Dialect.scriptKind
  cwd := config.root
  files := table.moduleHost disk
  resolve importer names :=
    names.map (Module.resolveWithMarkup? config.options (table.moduleHost disk) importer)

end InlineScript.Table
