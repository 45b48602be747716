import InlineScript.Disk.Basic
import InlineScript.Json.Comments
import InlineScript.Json.Record
import InlineScript.Script.Options

/-!
One configuration file of a project, and the files it builds on.
-/

namespace InlineScript.Project

/-- What went wrong with a configuration. -/
inductive ConfigFault where
  | unreadable (path : Path) (cause : ReadFault)
  | malformed (path : Path)
  | badPattern (path : Path) (pattern : String) (cause : String)
  | tooDeep (path : Path) (limit : Nat)
deriving DecidableEq, Repr

namespace ConfigFault

def message : ConfigFault → String
  | unreadable path cause => "failed to read " ++ path.text ++ ": " ++ cause.message
  | malformed path => "failed to parse " ++ path.text
  | badPattern path pattern cause =>
      "invalid pattern '" ++ pattern ++ "' in " ++ path.text ++ ": " ++ cause
  | tooDeep path limit =>
      "configuration chain starting at " ++ path.text ++ " extends more than " ++ toString limit
        ++ " files"

end ConfigFault

/-- The `compilerOptions` of a configuration file, as written. -/
structure WrittenOptions where
  target : Option String := none
  module : Option String := none
  moduleResolution : Option String := none
  allowJs : Option Bool := none
  baseUrl : Option String := none
deriving DecidableEq, Repr

/-- A configuration file as written. -/
structure Written where
  /-- The file it builds on. -/
  base : Option String := none
  options : Option WrittenOptions := none
  files : Option (List String) := none
  included : Option (List String) := none
  excluded : Option (List String) := none
deriving DecidableEq, Repr

/-- The members of a record all of whose members may be absent. An array has to hold all of them. -/
def members? (names : List String) (raw : Json.Raw) : Option (List (Option Json.Raw)) := do
  let members ← raw.record? names
  if members.length = names.length then some members else none

namespace WrittenOptions

def ofRaw? (raw : Json.Raw) : Option WrittenOptions := do
  let members ← members? ["target", "module", "moduleResolution", "allowJs", "baseUrl"] raw
  match members with
  | [target, module, moduleResolution, allowJs, baseUrl] =>
      return {
        target := ← Json.Raw.optional? Json.Raw.text? target
        module := ← Json.Raw.optional? Json.Raw.text? module
        moduleResolution := ← Json.Raw.optional? Json.Raw.text? moduleResolution
        allowJs := ← Json.Raw.optional? Json.Raw.flag? allowJs
        baseUrl := ← Json.Raw.optional? Json.Raw.text? baseUrl }
  | _ => none

end WrittenOptions

namespace Written

def ofRaw? (raw : Json.Raw) : Option Written := do
  let members ← members? ["extends", "compilerOptions", "files", "include", "exclude"] raw
  match members with
  | [base, options, files, included, excluded] =>
      return {
        base := ← Json.Raw.optional? Json.Raw.text? base
        options := ← Json.Raw.optional? WrittenOptions.ofRaw? options
        files := ← Json.Raw.optional? Json.Raw.texts? files
        included := ← Json.Raw.optional? Json.Raw.texts? included
        excluded := ← Json.Raw.optional? Json.Raw.texts? excluded }
  | _ => none

/-- A configuration from its text, which may hold comments and trailing commas. -/
def read? (text : String) : Option Written :=
  (Json.Raw.read? (Json.plain text.toList)).bind ofRaw?

end Written

/-- A configuration file and the directory its entries are relative to. -/
structure Layer where
  dir : Path
  written : Written
deriving DecidableEq, Repr

namespace Layer

/-- The directory of a configuration file. -/
def dirOf (path : Path) : Path :=
  path.directory.normalize

def load (disk : Disk) (path : Path) : Except ConfigFault Layer :=
  match disk.read path with
  | .error cause => .error (.unreadable path cause)
  | .ok text =>
      match Written.read? text with
      | none => .error (.malformed path)
      | some written => .ok { dir := dirOf path, written }

/-- The files that a name to build on may stand for. -/
def baseCandidates (path : Path) : List Path :=
  [path, path.appendText ".json", path.child "tsconfig.json"]

/-- The file that a configuration in a directory names to build on: next to it if the name starts
with a dot or is absolute, else in a package of the directory or one above. -/
def resolveBase? (disk : Disk) (dir : Path) (name : String) : Option Path :=
  let candidates :=
    if name.toList.head? = some '.' ∨ (Path.ofText name).isAbsolute then
      baseCandidates (dir.child name).normalize
    else
      dir.ancestors.flatMap fun ancestor =>
        baseCandidates ((ancestor.child "node_modules").child name)
  candidates.find? disk.isFile

/-- The file a layer builds on. -/
def base? (disk : Disk) (layer : Layer) : Option Path :=
  layer.written.base.bind (resolveBase? disk layer.dir)

end Layer

/-- A configuration builds on so many files at most, itself included. -/
def chainLimit : Nat := 8

/-- The configuration at `path` and those it builds on, nearest first, if they are no more than
`room`. `start` is the file the chain began with. -/
def chainFrom (disk : Disk) (start : Path) : Nat → Path → Except ConfigFault (List Layer)
  | 0, _ => .error (.tooDeep start chainLimit)
  | room + 1, path =>
      match Layer.load disk path with
      | .error fault => .error fault
      | .ok layer =>
          match layer.base? disk with
          | none => .ok [layer]
          | some next =>
              match chainFrom disk start room next with
              | .error fault => .error fault
              | .ok rest => .ok (layer :: rest)

/-- The configuration at a path and those it builds on, nearest first. -/
def chain (disk : Disk) (path : Path) : Except ConfigFault (List Layer) :=
  chainFrom disk path chainLimit path

end InlineScript.Project
