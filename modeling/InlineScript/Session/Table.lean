import Std.Data.TreeMap
import Std.Data.TreeSet
import InlineScript.Path.Normal
import InlineScript.Session.Snapshot

/-!
The files of a program: those of the project, and the scripts that are held in memory. A file has
one entry, whichever way its path is written.
-/

namespace InlineScript

structure Table where
  /-- The files of the project by their normal paths. -/
  projectFiles : Std.TreeSet Path Path.order := ∅
  /-- The last state of each script that is held in memory. -/
  snapshots : Std.TreeMap Path Snapshot Path.order := ∅
  /-- The dialect of each script that is held in memory. -/
  dialects : Std.TreeMap Path Dialect Path.order := ∅

namespace Table

/-- A table with the files of a project and nothing in memory. -/
def ofProjectFiles (paths : List Path) : Table where
  projectFiles := Std.TreeSet.ofList (paths.map Path.normalize) Path.order

variable (table : Table) (path : Path)

def snapshot? : Option Snapshot :=
  table.snapshots[path.normalize]?

def dialect? : Option Dialect :=
  table.dialects[path.normalize]?

def isTracked : Bool :=
  table.snapshots.contains path.normalize

def isProjectFile : Bool :=
  table.projectFiles.contains path.normalize

/-- Number of scripts in memory. -/
def size : Nat :=
  table.snapshots.size

/-- The version that an engine sees; files that are not in memory have version zero. -/
def version : Nat :=
  match table.snapshot? path with
  | some snapshot => snapshot.version
  | none => 0

/-- The largest version. -/
def versionLimit : Nat := 18446744073709551615

/-- The version for the next state of a script. An editor may start counting anew, so that the
version it asks for is only a lower bound. -/
def nextVersion (requested : Nat) : Nat :=
  match table.snapshot? path with
  | some previous => max requested (min (previous.version + 1) versionLimit)
  | none => max requested 1

/-- Stores a state of a script. The dialect it had before comes with the new table. -/
def put (snapshot : Snapshot) : Option Dialect × Table :=
  (table.dialect? path,
   { table with
     snapshots := table.snapshots.insert path.normalize snapshot
     dialects := table.dialects.insert path.normalize snapshot.dialect })

/-- All files of the program in order. -/
def files : List Path :=
  (table.projectFiles.insertMany table.snapshots.keys).toList

/-- Forgets the scripts in memory. -/
def clear : Table :=
  { table with snapshots := ∅, dialects := ∅ }

end Table

end InlineScript
