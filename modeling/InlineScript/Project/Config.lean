import Std.Data.TreeSet
import InlineScript.Project.Declared
import InlineScript.Project.Files

/-!
The configuration of a project: its options and files.
-/

namespace InlineScript.Project

open Glob (Pattern)

structure Config where
  /-- The file it was read from, if any. -/
  configPath : Option Path := none
  root : Path
  options : CompilerOptions := {}
  /-- The files of the project in order. -/
  fileNames : List Path := []
deriving DecidableEq, Repr

namespace Config

/-- Names of configuration files, in the order in which they are looked for. -/
def configNames : List String := ["tsconfig.json", "jsconfig.json"]

/-- The configuration file for a directory: the nearest one of the first name that occurs. -/
def find? (disk : Disk) (start : Path) : Option Path :=
  (configNames.flatMap fun name => start.ancestors.map (·.child name)).find? disk.isFile

/-- The pattern for all files below a directory. -/
def everything : Pattern := [.anyDirectories, .anySequence]

/-- Default options, and all script files below a directory. -/
def defaults (disk : Disk) (root : Path) : Config :=
  let options : CompilerOptions := {}
  { root
    options
    fileNames := collectFiles disk root [everything] [] options.allowJs }

/-- The entries to include: those declared, or all below the root where no files are declared. -/
def includedEntries (root : Path) (declared : Declared) : Option Entries :=
  match declared.files, declared.included with
  | none, none => some { dir := root, texts := ["**/*"] }
  | _, included => included

/-- The files that patterns find. Excluded patterns are matched from the directory of the included
ones. -/
def matchedFiles (disk : Disk) (source root : Path) (declared : Declared) :
    Except ConfigFault (List Path) :=
  match includedEntries root declared with
  | none => .ok []
  | some included => do
      let wanted ← compile source included.dir included.texts
      let unwanted ←
        match declared.excluded with
        | none => .ok []
        | some excluded => compile source excluded.dir excluded.texts
      return collectFiles disk included.dir wanted unwanted declared.options.allowJs

/-- The files that are listed by name. -/
def listedFiles (declared : Declared) : List Path :=
  match declared.files with
  | none => []
  | some entries => entries.texts.map fun name => (entries.dir.child name).normalize

/-- Paths in order, each once. -/
def distinct (paths : List Path) : List Path :=
  (Std.TreeSet.ofList paths Path.order).toList

/-- The configuration in a file and those it builds on. -/
def load (disk : Disk) (path : Path) : Except ConfigFault Config := do
  let declared := Declared.ofChain (← chain disk path)
  let root := Layer.dirOf path
  let matched ← matchedFiles disk path root declared
  return {
    configPath := some path
    root
    options := declared.options
    fileNames := distinct (listedFiles declared ++ matched) }

/-- The configuration for a directory: the one found, or defaults where there is none that can be
loaded. -/
def discover (disk : Disk) (root : Path) : Config :=
  match find? disk root with
  | none => defaults disk root
  | some path =>
      match load disk path with
      | .ok config => config
      | .error _ => defaults disk root

end Config

end InlineScript.Project
