import InlineScript.Disk.Basic
import InlineScript.Glob.Pattern
import InlineScript.Project.Layer

/-!
Files of a project: those below a directory that match a pattern.
-/

namespace InlineScript.Project

open Glob (Pattern)

/-- A text without `./` at its start, however often it stands there. -/
def dropDots : List Char → List Char
  | '.' :: '/' :: rest => dropDots rest
  | text => text

/-- The pattern text an entry stands for in a directory. An entry whose last segment has neither a
star nor a dot names a directory, and stands for all that is below. -/
def patternText (dir : Path) (entry : String) : List Char :=
  let bare := ((dropDots entry.toList).reverse.dropWhile (· == '/')).reverse
  let path := Path.ofText (String.ofList bare)
  let relative :=
    if path.isAbsolute then ((path.relativeTo? dir).getD path).text.toList else bare
  let last := (relative.splitOn '/').getLast?.getD []
  if last.contains '*' || last.contains '.' then relative
  else relative ++ ['/', '*', '*', '/', '*']

/-- The patterns of entries in a directory; `source` is the file to blame. -/
def compile (source dir : Path) : List String → Except ConfigFault (List Pattern)
  | [] => .ok []
  | entry :: rest =>
      match Pattern.parse (patternText dir entry) with
      | .error cause => .error (.badPattern source entry cause.message)
      | .ok pattern =>
          match compile source dir rest with
          | .error fault => .error fault
          | .ok patterns => .ok (pattern :: patterns)

/-- Directories that are not looked into. -/
def isSkipped (name : String) : Bool :=
  name.toList.head? == some '.' || name == "node_modules"

mutual

/-- The files at and below a place, each by the names that lead to it. -/
def filesBelow : Listing → List (List String)
  | .file => [[]]
  | .dir entries => filesOf entries

def filesOf : List (String × Listing) → List (List String)
  | [] => []
  | (name, .file) :: rest => [name] :: filesOf rest
  | (name, .dir entries) :: rest =>
      (if isSkipped name then [] else (filesOf entries).map (name :: ·)) ++ filesOf rest

end

/-- Whether a file takes part by its extension. -/
def isScriptFile (allowJs : Bool) (path : Path) : Bool :=
  match path.extension? with
  | some extension =>
      ["ts", "tsx", "mts", "cts"].contains extension
        || (allowJs && ["js", "jsx", "mjs", "cjs"].contains extension)
  | none => false

/-- Whether a file, by the names that lead to it, is asked for and not turned away. -/
def isSelected (included excluded : List Pattern) (names : List String) : Bool :=
  let relative := ("/".intercalate names).toList
  included.any (·.accepts relative) && !excluded.any (·.accepts relative)

/-- The script files below a directory that match an included pattern and no excluded one, in order. -/
def collectFiles (disk : Disk) (root : Path) (included excluded : List Pattern) (allowJs : Bool) :
    List Path :=
  match disk.listing root with
  | none => []
  | some listing =>
      let found := (filesBelow listing).filter fun names =>
        isScriptFile allowJs (names.foldl Path.child root) && isSelected included excluded names
      Path.sort (found.map fun names => (names.foldl Path.child root).normalize)

end InlineScript.Project
