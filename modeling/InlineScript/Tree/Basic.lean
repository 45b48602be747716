import InlineScript.Text.Cuts
import InlineScript.Text.Span

/-!
Trees of parsed scripts. A node covers the bytes from `start` to `stop`. Anonymous nodes stand for
punctuation and keywords, missing ones for what the parser put in, erroneous ones for what it could
not place.
-/

namespace InlineScript

open Text (Span)

/-- What is said about one node. -/
structure NodeInfo where
  kind : String
  named : Bool
  missing : Bool
  error : Bool
  /-- Whether the node or one below it is missing or erroneous. -/
  hasError : Bool
  start : Nat
  stop : Nat
  /-- The role of the node under the one above it, empty if it has none. -/
  field : String
deriving DecidableEq, Repr, Inhabited

inductive Tree where
  | node (info : NodeInfo) (children : List Tree)
deriving Repr, Inhabited

namespace Tree

def info : Tree → NodeInfo
  | node info _ => info

def children : Tree → List Tree
  | node _ children => children

def kind (tree : Tree) : String := tree.info.kind

def start (tree : Tree) : Nat := tree.info.start

def stop (tree : Tree) : Nat := tree.info.stop

def span (tree : Tree) : Span :=
  Span.ofBounds tree.start tree.stop

def namedChildren (tree : Tree) : List Tree :=
  tree.children.filter (·.info.named)

/-- The first child in a role. -/
def field? (tree : Tree) (name : String) : Option Tree :=
  tree.children.find? (·.info.field == name)

/-- The text a node covers; empty where its bounds are none of the text's. -/
def textIn (tree : Tree) (text : Text.Cuts) : List Char :=
  (text.slice? tree.start tree.stop).getD []

/-- The text a node covers, as a string. -/
def stringIn (tree : Tree) (text : Text.Cuts) : String :=
  String.ofList (tree.textIn text)

end Tree

/-- A node and the way down to it: the nodes above it, nearest first, each with the number of the
child that was taken. -/
structure Site where
  tree : Tree
  above : List (Tree × Nat)
deriving Repr, Inhabited

namespace Site

def ofRoot (tree : Tree) : Site where
  tree := tree
  above := []

/-- The numbers of the children taken on the way down, last one first. Two sites of a tree are the
same node when their addresses are. -/
def address (site : Site) : List Nat :=
  site.above.map (·.2)

def parent? (site : Site) : Option Site :=
  match site.above with
  | [] => none
  | (tree, _) :: above => some { tree, above }

/-- The sites of children of a node, given the number of the first. -/
def childrenFrom (parent : Tree) (above : List (Tree × Nat)) : Nat → List Tree → List Site
  | _, [] => []
  | number, tree :: rest =>
      { tree, above := (parent, number) :: above } :: childrenFrom parent above (number + 1) rest

def children (site : Site) : List Site :=
  childrenFrom site.tree site.above 0 site.tree.children

def namedChildren (site : Site) : List Site :=
  site.children.filter (·.tree.info.named)

/-- The first child in a role. -/
def field? (site : Site) (name : String) : Option Site :=
  site.children.find? (·.tree.info.field == name)

/-- The nearest named child before this one under the same node. -/
def previousNamed? (site : Site) : Option Tree :=
  match site.above with
  | [] => none
  | (parent, number) :: _ => (parent.children.take number).reverse.find? (·.info.named)

end Site

namespace Tree

mutual

/-- A node and the named ones below it that are reached through named ones, each before those below
it. -/
def namedSites (above : List (Tree × Nat)) : Tree → List Site
  | .node info children =>
      { tree := .node info children, above }
        :: namedSitesOf (.node info children) above 0 children

def namedSitesOf (parent : Tree) (above : List (Tree × Nat)) : Nat → List Tree → List Site
  | _, [] => []
  | number, tree :: rest =>
      (if tree.info.named then tree.namedSites ((parent, number) :: above) else [])
        ++ namedSitesOf parent above (number + 1) rest

end

/-- All named sites of a tree. -/
def sites (tree : Tree) : List Site :=
  tree.namedSites []

/-- Whether a node ends before an offset. A node that ends at the offset does, unless it is empty. -/
def endsBefore (tree : Tree) (offset : Nat) : Bool :=
  tree.stop < offset || (tree.stop == offset && tree.start != tree.stop)

mutual

/-- The smallest node at an offset. At each level the first child that does not end before the offset
is taken, if it has begun. -/
def descend (offset : Nat) (above : List (Tree × Nat)) : Tree → Site
  | .node info children =>
      (descendInto offset (.node info children) above 0 children).getD
        { tree := .node info children, above }

def descendInto (offset : Nat) (parent : Tree) (above : List (Tree × Nat)) :
    Nat → List Tree → Option Site
  | _, [] => none
  | number, tree :: rest =>
      if tree.endsBefore offset then descendInto offset parent above (number + 1) rest
      else if offset < tree.start then none
      else some (tree.descend offset ((parent, number) :: above))

end

/-- The smallest node at an offset of a tree. -/
def siteAt (tree : Tree) (offset : Nat) : Site :=
  tree.descend offset []

end Tree

end InlineScript
