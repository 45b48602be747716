import InlineScript.Disk.Basic

/-!
A tree of directories and files, and the disk that holds it. `..` leads to the directory above, so
what stands before it has to exist.
-/

namespace InlineScript

/-- A file has no text when its bytes are not UTF-8. Names are texts, so that nothing stands at a path
with a name that is not UTF-8. -/
inductive FileTree where
  | file (text : Option String)
  | dir (entries : List (String × FileTree))
deriving Repr, Inhabited

namespace FileTree

/-- Names have so many bytes at most. -/
def nameLimit : Nat := 255

/-- Paths have so many bytes at most. -/
def pathLimit : Nat := 4095

/-- What stands under a name. -/
def entry? (label : List UInt8) (entries : List (String × FileTree)) : Option FileTree :=
  (Text.Utf8.text? label).bind fun name => entries.lookup (String.ofList name)

/-- Follows components from a place, given the directories above it, nearest first. -/
def follow : FileTree → List FileTree → List Component → Except ReadFault FileTree
  | place, _, [] => .ok place
  | .file _, _, _ :: _ => .error .notADirectory
  | .dir entries, above, .root :: rest => follow (.dir entries) above rest
  | .dir entries, above, .here :: rest => follow (.dir entries) above rest
  | .dir entries, [], .up :: rest => follow (.dir entries) [] rest
  | .dir _, parent :: above, .up :: rest => follow parent above rest
  | .dir entries, above, .name label :: rest =>
      if nameLimit < label.length then
        .error .nameTooLong
      else
        match entry? label entries with
        | none => .error .missing
        | some place => follow place (.dir entries :: above) rest

/-- Whether the spelling of a path asks for a directory. -/
def asksForDirectory (path : Path) : Bool :=
  (path.segments.getLast?.map Path.isIdle).getD false

/-- What stands at a path. -/
def find (tree : FileTree) (cwd : Path) (path : Path) : Except ReadFault FileTree :=
  if path.bytes.contains 0 then
    .error .endsEarly
  else if pathLimit < path.bytes.length then
    .error .nameTooLong
  else if path.bytes.isEmpty then
    .error .missing
  else
    let components :=
      if path.isAbsolute then path.components else cwd.components ++ path.components
    match follow tree [] components with
    | .ok (.file text) => if asksForDirectory path then .error .notADirectory else .ok (.file text)
    | found => found

mutual

/-- The names at and below a place. -/
def listing : FileTree → Listing
  | .file _ => .file
  | .dir entries => .dir (listings entries)

def listings : List (String × FileTree) → List (String × Listing)
  | [] => []
  | (name, tree) :: rest => (name, tree.listing) :: listings rest

end

/-- The disk that holds a tree. -/
def disk (tree : FileTree) (cwd : Path) : Disk where
  cwd := cwd
  isFile path :=
    match tree.find cwd path with
    | .ok (.file _) => true
    | _ => false
  read path :=
    match tree.find cwd path with
    | .ok (.file (some text)) => .ok text
    | .ok (.file none) => .error .notText
    | .ok (.dir _) => .error .isADirectory
    | .error fault => .error fault
  listing path :=
    match tree.find cwd path with
    | .ok place => some place.listing
    | .error _ => none

/-- The entries with one put under a name. -/
def putEntry (name : String) (tree : FileTree) : List (String × FileTree) → List (String × FileTree)
  | [] => [(name, tree)]
  | (other, old) :: rest =>
      if other == name then (name, tree) :: rest else (other, old) :: putEntry name tree rest

/-- The tree with a place put under the given names. Directories on the way are made, and making
a directory that is there changes nothing. -/
def insertPlace (place : FileTree) : List String → FileTree → FileTree
  | [], old =>
      match place, old with
      | .dir [], .dir entries => .dir entries
      | _, _ => place
  | name :: rest, .dir entries =>
      .dir (putEntry name (insertPlace place rest ((entries.lookup name).getD (.dir []))) entries)
  | name :: rest, .file _ => .dir [(name, insertPlace place rest (.dir []))]

/-- `insertPlace` into a tree. -/
def put (tree : FileTree) (names : List String) (place : FileTree) : FileTree :=
  insertPlace place names tree

/-- The tree without what stands under the given names. -/
def erase : List String → FileTree → FileTree
  | [name], .dir entries => .dir (entries.filter (·.1 != name))
  | name :: rest, .dir entries =>
      match entries.lookup name with
      | none => .dir entries
      | some place => .dir (putEntry name (erase rest place) entries)
  | _, tree => tree

/-- The names that lead to a path in normal form. -/
def namesOf (path : Path) : List String :=
  path.normalize.components.filterMap fun component =>
    match component with
    | .name label => some (String.ofList (Text.Utf8.decode label))
    | _ => none

end FileTree

end InlineScript
