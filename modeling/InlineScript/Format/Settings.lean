import InlineScript.Disk.Basic
import InlineScript.Json.Record

/-!
Settings of the layout, read from the nearest settings file.
-/

namespace InlineScript.Format

structure Settings where
  tabWidth : Nat := 2
  useTabs : Bool := false
  printWidth : Nat := 80
deriving DecidableEq, Repr, Inhabited

namespace Settings

/-- Names of a settings file, in the order in which they are looked for. -/
def fileNames : List String := [".prettierrc", ".prettierrc.json"]

/-- One level of indentation. -/
def indentUnit (settings : Settings) : List Char :=
  if settings.useTabs then ['\t'] else List.replicate settings.tabWidth ' '

/-- A member of the settings: it may be absent, but not null. -/
def member? {α : Type} (default : α) (read : Json.Raw → Option α) : Option Json.Raw → Option α
  | none => some default
  | some raw => read raw

/-- Settings from the text of a settings file. -/
def read? (text : String) : Option Settings := do
  let raw ← Json.Raw.read? text.toList
  let members ← raw.record? ["tabWidth", "useTabs", "printWidth"]
  let at? (i : Nat) : Option Json.Raw := (members[i]?).join
  let tabWidth ← member? 2 Json.Raw.count? (at? 0)
  let useTabs ← member? false Json.Raw.flag? (at? 1)
  let printWidth ← member? 80 Json.Raw.count? (at? 2)
  return { tabWidth, useTabs, printWidth }

/-- Settings from the first of the given files that is there. One that cannot be read or understood
stands for the defaults. -/
def fromFiles (disk : Disk) : List Path → Settings
  | [] => {}
  | path :: rest =>
      match disk.read path with
      | .ok text => (read? text).getD {}
      | .error .missing => fromFiles disk rest
      | .error _ => {}

/-- The settings for a file: those of its directory or the nearest one above. -/
def discover (disk : Disk) (path : Path) : Settings :=
  fromFiles disk (path.strictAncestors.flatMap fun dir => fileNames.map dir.child)

end Settings

end InlineScript.Format
