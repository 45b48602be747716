import InlineScript.Json.Value
import InlineScript.Path.Normal
import InlineScript.Script.Kind
import InlineScript.Script.Options

/-!
Finding the file an import means. Names that start with a dot, and absolute ones, are looked up next
to the importing file; all others below the base directory, then in the directories above.
-/

namespace InlineScript.Module

/-- The files that imports can reach. -/
structure Host where
  fileExists : Path → Bool
  fileText : Path → Option String

/-- The file an import means. -/
structure Resolved where
  fileName : Path
  extension : Extension
  /-- Whether it belongs to a package. -/
  isExternal : Bool
deriving DecidableEq, Repr

/-- Whether a name is looked up next to the importing file. -/
def isRelative (name : String) : Bool :=
  name == "." || name == ".." || ['.', '/'].isPrefixOf name.toList
    || ['.', '.', '/'].isPrefixOf name.toList || (Path.ofText name).isAbsolute

/-- Endings of typed files, in the order in which they are tried. -/
def typedEndings : List String := [".ts", ".tsx", ".d.ts"]

/-- All endings, in the order in which they are tried. -/
def endings (options : CompilerOptions) : List String :=
  typedEndings ++ if options.allowJs then [".js", ".jsx"] else []

variable (options : CompilerOptions) (host : Host)

/-- The module in a file, if its name has a known ending. -/
def ofFile? (isExternal : Bool) (path : Path) : Option Resolved :=
  (Extension.ofPath? path).map fun extension => { fileName := path, extension, isExternal }

/-- The first file that is there of a path with the given endings. -/
def withEnding? (path : Path) (endings : List String) : Option Path :=
  (endings.map path.appendText).find? host.fileExists

/-- Whether a path names a script by its ending. -/
def isScriptName (path : Path) : Bool :=
  match Extension.ofPath? path with
  | none | some .markup => false
  | some _ => true

/-- Whether a path names an untyped file, in whose place a typed one may stand. -/
def isUntypedName (path : Path) : Bool :=
  match path.extension? with
  | some extension => ["js", "jsx", "mjs", "cjs"].contains extension
  | none => false

/-- The typed file that stands in the place of an untyped one. -/
def typedInstead? (path : Path) : Option Path :=
  if isUntypedName path then withEnding? host path.withoutExtension typedEndings else none

/-- A path as a file: itself, or a typed file in its place, or the path with an ending. -/
def asFile? (isExternal : Bool) (path : Path) : Option Resolved :=
  if isScriptName path && host.fileExists path then
    ofFile? isExternal path
  else
    match typedInstead? host path with
    | some typed => ofFile? isExternal typed
    | none =>
        ((endings options).map path.appendText).findSome? fun candidate =>
          if host.fileExists candidate then ofFile? isExternal candidate else none

/-- The file that a package names as its entry. -/
def packageFile? (dir : Path) : Option Path := do
  let text ← host.fileText (dir.child "package.json")
  let manifest ← Json.Value.read? text
  let entry ← ["types", "typings", "main"].findSome? fun member =>
    (manifest.member? member).bind Json.Value.string?
  return (dir.child entry).normalize

/-- A path as a directory: the entry it names, or its index file. -/
def asDirectory? (isExternal : Bool) (dir : Path) : Option Resolved :=
  ((packageFile? host dir).bind (asFile? options host isExternal)).or
    (asFile? options host isExternal (dir.child "index"))

def asFileOrDirectory? (isExternal : Bool) (path : Path) : Option Resolved :=
  (asFile? options host isExternal path).or (asDirectory? options host isExternal path)

/-- The name of the package that holds the types of another: `@scope/pkg` becomes `scope__pkg`. -/
def typesPackage (name : String) : String :=
  match name.toList with
  | '@' :: package =>
      match package.dropWhile (· != '/') with
      | [] => String.ofList package
      | _ :: rest => String.ofList (package.takeWhile (· != '/') ++ ['_', '_'] ++ rest)
  | _ => name

/-- Where a package may be found from a directory, in order. -/
def packagePaths (name : String) (dir : Path) : List Path :=
  dir.ancestors.flatMap fun ancestor =>
    let packages := ancestor.child "node_modules"
    [packages.child name, (packages.child "@types").child (typesPackage name)]

def inPackages? (name : String) (dir : Path) : Option Resolved :=
  (packagePaths name dir).findSome? (asFileOrDirectory? options host true)

def inDirectoriesAbove? (name : String) (dir : Path) : Option Resolved :=
  (dir.ancestors.map (·.child name)).findSome? (asFile? options host false)

/-- A name below the base directory. -/
def belowBase? (name : String) : Option Resolved :=
  options.baseUrl.bind fun base => asFileOrDirectory? options host false (base.child name).normalize

/-- The file that a name means when a file imports it. -/
def resolve? (importer : Path) (name : String) : Option Resolved :=
  let dir := importer.directory
  if isRelative name then
    asFileOrDirectory? options host false (dir.child name).normalize
  else
    (belowBase? options host name).or
      (match options.moduleResolution with
      | .classic => inDirectoriesAbove? options host name dir
      | .node | .bundler => inPackages? options host name dir)

end InlineScript.Module
