import Std.Data.TreeMap
import InlineScript.Tree.Basic

/-!
Trees as lists of nodes, each before those below it, with the number of the node above.
-/

namespace InlineScript.Tree

/-- A node of the list; the root has none above it. -/
structure Entry where
  info : NodeInfo
  parent : Option Nat
deriving Repr

/-- Puts a node in front of the children collected for the one above it. The node's own children,
which come later in the list, are collected already. Nodes are counted from one, so that zero stands
for what is above the root. -/
def place (pending : Std.TreeMap Nat (List Tree)) (number : Nat) (entry : Entry) :
    Std.TreeMap Nat (List Tree) :=
  let tree := Tree.node entry.info (pending.getD (number + 1) [])
  let above := (entry.parent.map (· + 1)).getD 0
  pending.insert above (tree :: pending.getD above [])

/-- The tree of a list of nodes. -/
def ofPreorder? (entries : List Entry) : Option Tree :=
  let pending := entries.zipIdx.foldr (fun (entry, number) pending => place pending number entry) ∅
  pending[0]?.bind List.head?

end InlineScript.Tree
