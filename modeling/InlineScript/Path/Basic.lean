import InlineScript.Text.Utf8

/-!
Paths are bytes divided by slashes, and mostly the bytes of a text. A path keeps the spelling it was
written with, and is compared by its components: repeated slashes and inner `.` segments make no
difference, a leading `.` and every `..` do.
-/

namespace InlineScript

structure Path where
  bytes : List UInt8
deriving DecidableEq, Repr, Inhabited

/-- What a segment of a path stands for. -/
inductive Component where
  | root
  | here
  | up
  | name (label : List UInt8)
deriving DecidableEq, Repr, Inhabited

namespace Component

def rank : Component → Nat
  | root => 0
  | here => 1
  | up => 2
  | name _ => 3

/-- The byte that divides the segments of a path. -/
def slash : UInt8 := 0x2F

/-- The byte that begins an extension. -/
def dot : UInt8 := 0x2E

/-- The spelling of a component between slashes. -/
def label : Component → List UInt8
  | root => []
  | here => [dot]
  | up => [dot, dot]
  | name label => label

/-- The root comes first, then `.`, then `..`, then names in the order of their bytes. -/
def order : Component → Component → Ordering :=
  compareLex (compareOn rank) (compareOn label)

instance : Ord Component := ⟨order⟩

instance : Std.TransOrd Component :=
  inferInstanceAs (Std.TransCmp (compareLex (compareOn rank) (compareOn label)))

/-- The component a segment behind the first one stands for; empty and `.` segments stand for none. -/
def ofSegment? (segment : List UInt8) : Option Component :=
  if segment = [] ∨ segment = [dot] then none
  else if segment = [dot, dot] then some up
  else some (name segment)

end Component

namespace Path

open Component (slash dot)

/-- The path that a text spells. -/
def ofText (text : String) : Path where
  bytes := Text.Utf8.encode text.toList

/-- The path as it is shown. -/
def text (path : Path) : String :=
  String.ofList (Text.Utf8.decode path.bytes)

def isAbsolute (path : Path) : Bool :=
  path.bytes.head? == some slash

/-- The bytes between slashes; the first are none for an absolute path. -/
def segments (path : Path) : List (List UInt8) :=
  path.bytes.splitOn slash

/-- The path with the given bytes between slashes. -/
def ofSegments (segments : List (List UInt8)) : Path where
  bytes := [slash].intercalate segments

def components (path : Path) : List Component :=
  let lead :=
    if path.isAbsolute then [Component.root]
    else if path.segments.head? = some [dot] then [Component.here]
    else []
  lead ++ path.segments.filterMap Component.ofSegment?

/-- Paths are ordered by component, not by spelling. -/
def order : Path → Path → Ordering :=
  compareOn components

instance : Std.TransCmp order :=
  inferInstanceAs (Std.TransCmp (compareOn components))

/-- Whether two spellings name the same path. -/
def same (path other : Path) : Bool :=
  path.components == other.components

/-- Paths in increasing order. -/
def sort (paths : List Path) : List Path :=
  paths.mergeSort (fun path other => (order path other).isLE)

/-- Whether a segment behind the first one stands for no component. -/
def isIdle (segment : List UInt8) : Bool :=
  segment == [] || segment == [dot]

/-- The empty path. -/
def empty : Path := ⟨[]⟩

/-- The path of the root. -/
def root : Path := ⟨[slash]⟩

/-- The path from its first segment and the others, last one first, without idle segments at the
end. An absolute path with no other segment is the root. -/
def ofReversed (absolute : Bool) (first : List UInt8) (reversed : List (List UInt8)) : Path :=
  match reversed.dropWhile isIdle with
  | [] => if absolute then root else ofSegments [first]
  | rest => ofSegments (first :: rest.reverse)

/-- The path without idle segments at its end. -/
def trimmed (path : Path) : Path :=
  match path.segments with
  | [] => path
  | first :: rest => ofReversed path.isAbsolute first rest.reverse

/-- The paths above a path, nearest first, from its first segment and the others, last one first. -/
def above (absolute : Bool) (first : List UInt8) : List (List UInt8) → List Path
  | [] => if absolute || first.isEmpty then [] else [empty]
  | segment :: rest =>
      if isIdle segment then above absolute first rest
      else ofReversed absolute first rest :: above absolute first rest

/-- The paths above a path, nearest first. Those of a relative path end with the empty path, those
of an absolute one with the root. -/
def strictAncestors (path : Path) : List Path :=
  match path.segments with
  | [] => []
  | first :: rest => above path.isAbsolute first rest.reverse

/-- A path and the paths above it, nearest first. -/
def ancestors (path : Path) : List Path :=
  path :: path.strictAncestors

def parent? (path : Path) : Option Path :=
  path.strictAncestors.head?

/-- The directory a file stands in; empty when the path has none above it. -/
def directory (path : Path) : Path :=
  path.parent?.getD empty

/-- The path that `other` names when read in the directory `path`. -/
def join (path other : Path) : Path :=
  if other.isAbsolute then
    other
  else if path.bytes.isEmpty || path.bytes.getLast? == some slash then
    ⟨path.bytes ++ other.bytes⟩
  else
    ⟨path.bytes ++ slash :: other.bytes⟩

/-- `join` with a path given as text. -/
def child (path : Path) (name : String) : Path :=
  path.join (ofText name)

/-- The text behind the path's own, with nothing between. -/
def appendText (path : Path) (text : String) : Path :=
  ⟨path.bytes ++ Text.Utf8.encode text.toList⟩

/-- The last component, if it is a name. -/
def label? (path : Path) : Option (List UInt8) :=
  match path.components.getLast? with
  | some (.name label) => some label
  | _ => none

/-- The last component, if it is a name that is a text. -/
def fileName? (path : Path) : Option String :=
  (path.label?.bind Text.Utf8.text?).map String.ofList

/-- What stands before and after the last dot of a name. A name that starts with its only dot is not
cut. -/
def cutName? (name : List UInt8) : Option (List UInt8 × List UInt8) :=
  match name.reverse.span (· != dot) with
  | (_, []) => none
  | (_, [_]) => none
  | (reversed, _ :: before) => some (before.reverse, reversed.reverse)

/-- What follows the last dot of the name, if it is a text. -/
def extension? (path : Path) : Option String := do
  let (_, extension) ← path.label?.bind cutName?
  (Text.Utf8.text? extension).map String.ofList

/-- The path up to the end of the last component's name, without what follows the name's last dot. -/
def stem (path : Path) : Path :=
  match path.label? with
  | none => path
  | some name =>
      let kept := ((cutName? name).map (·.1)).getD name
      let bytes := path.trimmed.bytes
      ⟨bytes.take (bytes.length - (name.length - kept.length))⟩

/-- The path without its extension. The bytes of the extension are taken from the end of the path,
and then what is left of it is cut; what is left of `..x` names the directory above, and stays. -/
def withoutExtension (path : Path) : Path :=
  match path.label?.bind cutName? with
  | none => path.stem
  | some (_, extension) => stem ⟨path.bytes.take (path.bytes.length - extension.length)⟩

/-- The segments behind those that spell the given components, if they come first. -/
def dropComponents? : List Component → List (List UInt8) → Option (List (List UInt8))
  | [], segments => some segments
  | _ :: _, [] => none
  | component :: components, segment :: segments =>
      match Component.ofSegment? segment with
      | none => dropComponents? (component :: components) segments
      | some found => if found = component then dropComponents? components segments else none

/-- An absolute path as it reads from the directory `base`, if it lies below. -/
def relativeTo? (path base : Path) : Option Path :=
  match base.components with
  | [] => some path.trimmed
  | .root :: body =>
      if path.isAbsolute then
        (dropComponents? body (path.trimmed.segments.drop 1)).map
          fun rest => ofSegments (rest.dropWhile isIdle)
      else
        none
  | _ => none

end Path

end InlineScript
