import InlineScript.Path.Basic

/-!
Lexical normal form of a path: no `.`, and `..` only as a leading run of a relative path.
-/

namespace InlineScript.Path

/-- Adds a component to a normal list, last component first. A `..` takes away the name before it,
is dropped at the root, and is kept otherwise. -/
def addNormal (normal : List Component) : Component → List Component
  | .root => [.root]
  | .here => normal
  | .name label => .name label :: normal
  | .up =>
      match normal with
      | .name _ :: below => below
      | .root :: _ => normal
      | _ => .up :: normal

/-- Components in normal form. -/
def normalComponents (components : List Component) : List Component :=
  (components.foldl addNormal []).reverse

/-- The path that spells the given components with single slashes. -/
def ofComponents : List Component → Path
  | .root :: rest => ⟨Component.slash :: [Component.slash].intercalate (rest.map Component.label)⟩
  | components => ⟨[Component.slash].intercalate (components.map Component.label)⟩

/-- The lexical normal form of a path. It does not look at any disk. -/
def normalize (path : Path) : Path :=
  ofComponents (normalComponents path.components)

end InlineScript.Path
