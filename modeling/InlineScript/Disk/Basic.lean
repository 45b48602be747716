import InlineScript.Path.Normal

/-!
A disk answers questions about files. It is a value: a program that writes goes on with another
disk.
-/

namespace InlineScript

/-- Why a file could not be read. -/
inductive ReadFault where
  | missing
  | notADirectory
  | isADirectory
  | nameTooLong
  /-- The path holds the byte that ends one. -/
  | endsEarly
  | notText
deriving DecidableEq, Repr

namespace ReadFault

def message : ReadFault → String
  | missing => "No such file or directory (os error 2)"
  | notADirectory => "Not a directory (os error 20)"
  | isADirectory => "Is a directory (os error 21)"
  | nameTooLong => "File name too long (os error 36)"
  | endsEarly => "file name contained an unexpected NUL byte"
  | notText => "stream did not contain valid UTF-8"

end ReadFault

/-- The names at and below a place, in any order. A name that is not UTF-8 is left out with all that
stands below it: files are looked for by patterns, and no pattern matches its path. -/
inductive Listing where
  | file
  | dir (entries : List (String × Listing))
deriving Repr, Inhabited

structure Disk where
  /-- Where relative paths start. -/
  cwd : Path
  isFile : Path → Bool
  read : Path → Except ReadFault String
  listing : Path → Option Listing

namespace Disk

/-- The text of a file, if it can be read. -/
def text? (disk : Disk) (path : Path) : Option String :=
  (disk.read path).toOption

/-- The path from the root. `.` components and repeated slashes vanish, `..` components, two
slashes at the start and a slash at the end stay. -/
def absolute (disk : Disk) (path : Path) : Path :=
  let labels := (path.components.filter (fun c => c != .here && c != .root)).map Component.label
  let slashes := path.bytes.takeWhile (· == Component.slash)
  let start : Path :=
    if path.isAbsolute then if slashes.length = 2 then ⟨slashes⟩ else Path.root else disk.cwd
  let whole := labels.foldl (fun dir label => dir.join ⟨label⟩) start
  if path.bytes.getLast? = some Component.slash then whole.join Path.empty else whole

/-- The disk after a readable file has got another text. -/
def overwrite (disk : Disk) (path : Path) (text : String) : Disk where
  cwd := disk.cwd
  isFile := disk.isFile
  read other :=
    match disk.read other with
    | .ok old =>
        if (disk.absolute other).normalize.same (disk.absolute path).normalize then .ok text
        else .ok old
    | .error fault => .error fault
  listing := disk.listing

end Disk

end InlineScript
