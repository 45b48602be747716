import InlineScript.QuickInfo.Display

/-!
What is known about the identifier at a place. It is that of its own declaration, or else of the
declaration of its name whose scope around the identifier begins last.
-/

namespace InlineScript.QuickInfo

/-- Kinds of nodes that are identifiers. -/
def identifierKinds : List String :=
  ["identifier", "type_identifier", "shorthand_property_identifier",
   "shorthand_property_identifier_pattern"]

/-- Offsets into a tree are words of 32 bits; of longer ones the low bits count. -/
def wordOffset (offset : Nat) : Nat :=
  offset % 4294967296

/-- The node at an offset, if it is an identifier. -/
def identifierExactlyAt? (root : Tree) (offset : Nat) : Option Site :=
  let site := root.siteAt (wordOffset offset)
  if identifierKinds.contains site.tree.kind then some site else none

/-- The identifier at an offset or directly before it. -/
def identifierAt? (root : Tree) (offset : Nat) : Option Site :=
  (identifierExactlyAt? root offset).or
    (if offset = 0 then none else identifierExactlyAt? root (offset - 1))

/-- Whether one node covers the bytes of another. -/
def encloses (scope node : Tree) : Bool :=
  scope.start ≤ node.start && node.stop ≤ scope.stop

/-- Of declarations the one whose scope begins last; of several the last. -/
def innermost? : List Declaration → Option Declaration
  | [] => none
  | declaration :: rest =>
      match innermost? rest with
      | none => some declaration
      | some other =>
          if other.scope.tree.start < declaration.scope.tree.start then some declaration
          else some other

/-- The declarations of a name that can be seen at a node. -/
def visible (text : Text.Cuts) (declarations : List Declaration) (identifier : Site) :
    List Declaration :=
  let name := identifier.tree.textIn text
  declarations.filter fun declaration =>
    declaration.name.tree.textIn text == name
      && encloses declaration.scope.tree identifier.tree

/-- The declaration that an identifier refers to. -/
def declarationOf? (text : Text.Cuts) (declarations : List Declaration) (identifier : Site) :
    Option Declaration :=
  (declarations.find? (·.name.address == identifier.address)).or
    (innermost? (visible text declarations identifier))

end QuickInfo

namespace SourceFile

open QuickInfo

/-- What is known about the identifier at an offset. -/
def quickInfo? (file : SourceFile) (offset : Nat) : Option InlineScript.QuickInfo := do
  let root ← file.tree
  let identifier ← identifierAt? root offset
  let text := file.cuts
  let declaration ← declarationOf? text (declarations root) identifier
  return {
    span := identifier.tree.span
    display := declaration.display text
    documentation := declaration.documentation? text }

end SourceFile

end InlineScript
