import Mathlib.Logic.Relation
import InlineScript.Tree.Basic

/-!
Sites of a tree. A site is one of a tree if it is reached from the root by going from nodes to their
children. The walks through a tree reach such sites only, an address tells a site from all others, and
what holds at every node of a tree holds at every site.
-/

namespace InlineScript

namespace Tree

/-! ## What holds at every node -/

mutual

/-- Whether something holds of a node and of all nodes below it. -/
def Everywhere (holds : Tree → Prop) : Tree → Prop
  | .node info children => holds (.node info children) ∧ EverywhereOf holds children

def EverywhereOf (holds : Tree → Prop) : List Tree → Prop
  | [] => True
  | tree :: rest => tree.Everywhere holds ∧ EverywhereOf holds rest

end

mutual

def decidableEverywhere (holds : Tree → Prop) [DecidablePred holds] :
    (tree : Tree) → Decidable (tree.Everywhere holds)
  | .node _ children => @instDecidableAnd _ _ _ (decidableEverywhereOf holds children)

def decidableEverywhereOf (holds : Tree → Prop) [DecidablePred holds] :
    (trees : List Tree) → Decidable (EverywhereOf holds trees)
  | [] => isTrue trivial
  | tree :: rest =>
      @instDecidableAnd _ _ (decidableEverywhere holds tree) (decidableEverywhereOf holds rest)

end

instance (holds : Tree → Prop) [DecidablePred holds] (tree : Tree) :
    Decidable (tree.Everywhere holds) :=
  decidableEverywhere holds tree

variable {holds : Tree → Prop} {tree : Tree}

theorem everywhereOf_iff {trees : List Tree} :
    EverywhereOf holds trees ↔ ∀ tree ∈ trees, tree.Everywhere holds := by
  induction trees with
  | nil => simp [EverywhereOf]
  | cons tree rest ih => simp [EverywhereOf, ih]

theorem everywhere_iff :
    tree.Everywhere holds ↔ holds tree ∧ ∀ child ∈ tree.children, child.Everywhere holds := by
  cases tree with
  | node info children => rw [Everywhere, everywhereOf_iff]; rfl

/-- Whether every node of a tree covers its children. -/
def Nests (tree : Tree) : Prop :=
  tree.Everywhere fun node =>
    ∀ child ∈ node.children, node.start ≤ child.start ∧ child.stop ≤ node.stop

instance (tree : Tree) : Decidable tree.Nests :=
  inferInstanceAs (Decidable (tree.Everywhere _))

end Tree

namespace Site

variable {site child parent inner outer : Site} {above : List (Tree × Nat)} {tree : Tree}
  {holds : Tree → Prop}

/-! ## Children -/

theorem mem_childrenFrom_iff {number : Nat} {trees : List Tree} :
    child ∈ childrenFrom tree above number trees ↔
      ∃ index, trees[index]? = some child.tree ∧ child.above = (tree, number + index) :: above := by
  induction trees generalizing number with
  | nil => simp [childrenFrom]
  | cons first rest ih =>
      rw [childrenFrom, List.mem_cons, ih]
      constructor
      · intro listed
        cases listed with
        | inl isFirst => exact ⟨0, by rw [isFirst]; rfl, by rw [isFirst]; rfl⟩
        | inr later =>
            obtain ⟨index, found, way⟩ := later
            exact ⟨index + 1, found, by rw [way]; congr 2; omega⟩
      · rintro ⟨index, found, way⟩
        cases index with
        | zero =>
            left
            obtain ⟨child, up⟩ := child
            cases found
            cases way
            rfl
        | succ index =>
            right
            exact ⟨index, found, by rw [way]; congr 2; omega⟩

theorem mem_children_iff :
    child ∈ parent.children ↔
      ∃ number, parent.tree.children[number]? = some child.tree ∧
        child.above = (parent.tree, number) :: parent.above := by
  simp [children, mem_childrenFrom_iff]

theorem parent?_of_mem_children (listed : child ∈ parent.children) : child.parent? = some parent := by
  obtain ⟨number, -, way⟩ := mem_children_iff.mp listed
  rw [Site.parent?, way]

theorem address_of_mem_children (listed : child ∈ parent.children) :
    ∃ number, child.address = number :: parent.address := by
  obtain ⟨number, -, way⟩ := mem_children_iff.mp listed
  exact ⟨number, by rw [address, way]; rfl⟩

theorem tree_mem_of_mem_children (listed : child ∈ parent.children) :
    child.tree ∈ parent.tree.children := by
  obtain ⟨number, found, -⟩ := mem_children_iff.mp listed
  exact List.mem_of_getElem? found

theorem everywhere_of_mem_children (listed : child ∈ parent.children)
    (everywhere : parent.tree.Everywhere holds) : child.tree.Everywhere holds :=
  (Tree.everywhere_iff.mp everywhere).2 _ (tree_mem_of_mem_children listed)

/-! ## Sites below others -/

/-- Whether a site is reached from another one by going down, at least once. -/
def Below (inner outer : Site) : Prop :=
  Relation.TransGen (fun parent child => child ∈ parent.children) outer inner

theorem Below.everywhere (below : inner.Below outer) (everywhere : outer.tree.Everywhere holds) :
    inner.tree.Everywhere holds := by
  induction below with
  | single listed => exact everywhere_of_mem_children listed everywhere
  | tail _ listed ih => exact everywhere_of_mem_children listed ih

theorem Below.isSuffix_address (below : inner.Below outer) :
    outer.address <:+ inner.address ∧ outer.address ≠ inner.address := by
  suffices longer : ∃ front, front ≠ [] ∧ inner.address = front ++ outer.address by
    obtain ⟨front, some, split⟩ := longer
    exact ⟨⟨front, split.symm⟩, by simp [split, some]⟩
  induction below with
  | single listed =>
      obtain ⟨number, address⟩ := address_of_mem_children listed
      exact ⟨[number], by simp, address⟩
  | tail _ listed ih =>
      obtain ⟨number, address⟩ := address_of_mem_children listed
      obtain ⟨front, -, split⟩ := ih
      exact ⟨number :: front, by simp, by rw [address, split]; rfl⟩

theorem not_below_self (site : Site) : ¬ site.Below site :=
  fun below => below.isSuffix_address.2 rfl

/-- In a tree whose nodes cover their children, they cover all nodes below them. -/
theorem Below.covers (below : inner.Below outer) (nests : outer.tree.Nests) :
    outer.tree.start ≤ inner.tree.start ∧ inner.tree.stop ≤ outer.tree.stop := by
  induction below with
  | single listed => exact (Tree.everywhere_iff.mp nests).1 _ (tree_mem_of_mem_children listed)
  | @tail middle inner isBelow listed ih =>
      have middleNests : middle.tree.Nests := Below.everywhere isBelow nests
      have covered := (Tree.everywhere_iff.mp middleNests).1 _ (tree_mem_of_mem_children listed)
      exact ⟨Nat.le_trans ih.1 covered.1, Nat.le_trans covered.2 ih.2⟩

end Site

/-! ## Sites of a tree -/

/-- Whether a site is reached from the root of a tree. -/
def Tree.HasSite (root : Tree) (site : Site) : Prop :=
  Relation.ReflTransGen (fun parent child => child ∈ parent.children) (Site.ofRoot root) site

namespace Tree.HasSite

variable {root tree : Tree} {site child parent other : Site} {above : List (Tree × Nat)}
  {holds : Tree → Prop} {name : String}

theorem ofRoot (root : Tree) : root.HasSite (Site.ofRoot root) :=
  Relation.ReflTransGen.refl

theorem of_mem_children (has : root.HasSite site) (listed : child ∈ site.children) : root.HasSite child :=
  Relation.ReflTransGen.tail has listed

theorem everywhere (has : root.HasSite site) (everywhere : root.Everywhere holds) :
    site.tree.Everywhere holds := by
  induction has with
  | refl => exact everywhere
  | tail _ listed ih => exact Site.everywhere_of_mem_children listed ih

theorem of_parent? (has : root.HasSite site) (up : site.parent? = some parent) :
    root.HasSite parent := by
  cases has with
  | refl => contradiction
  | tail has listed =>
      rw [Site.parent?_of_mem_children listed, Option.some.injEq] at up
      exact up ▸ has

theorem of_field? (has : root.HasSite site) (found : site.field? name = some child) :
    root.HasSite child :=
  has.of_mem_children (List.mem_of_find?_eq_some found)

theorem of_mem_namedChildren (has : root.HasSite site) (listed : child ∈ site.namedChildren) :
    root.HasSite child :=
  has.of_mem_children (List.mem_filter.mp listed).1

/-- Two sites of a tree with the same address are the same. -/
theorem eq_of_address (has : root.HasSite site) (hasOther : root.HasSite other)
    (same : site.address = other.address) : site = other := by
  induction has generalizing other with
  | refl =>
      cases hasOther with
      | refl => rfl
      | tail _ listed =>
          obtain ⟨number, -, way⟩ := Site.mem_children_iff.mp listed
          simp [Site.address, Site.ofRoot, way] at same
  | @tail parent site _ listed ih =>
      obtain ⟨number, found, way⟩ := Site.mem_children_iff.mp listed
      cases hasOther with
      | refl => simp [Site.address, Site.ofRoot, way] at same
      | @tail otherParent _ hasParent otherListed =>
          obtain ⟨otherNumber, otherFound, otherWay⟩ := Site.mem_children_iff.mp otherListed
          simp only [Site.address, way, otherWay, List.map_cons, List.cons.injEq] at same
          obtain ⟨rfl, sameAbove⟩ := same
          -- the children of one number under one parent
          obtain rfl := ih hasParent sameAbove
          rw [found, Option.some.injEq] at otherFound
          cases site
          cases other
          simp_all

/-- A site is below another one exactly if the other's address is a proper end of its own. -/
theorem below_iff (has : root.HasSite site) (hasOther : root.HasSite other) :
    site.Below other ↔ other.address <:+ site.address ∧ other.address ≠ site.address := by
  constructor
  · exact Site.Below.isSuffix_address
  · rintro ⟨ends, notSame⟩
    induction has with
    | refl => exact absurd (List.suffix_nil.mp ends) notSame
    | @tail parent site hasParent listed ih =>
        obtain ⟨number, address⟩ := Site.address_of_mem_children listed
        rw [address, List.suffix_cons_iff] at ends
        cases ends with
        | inl same => exact absurd (same.trans address.symm) notSame
        | inr endsParent =>
            by_cases isParent : other.address = parent.address
            · obtain rfl := hasOther.eq_of_address hasParent isParent
              exact .single listed
            · exact .tail (ih endsParent isParent) listed

end Tree.HasSite

/-! ## Walks -/

namespace Tree

variable {root : Tree} {offset : Nat}

mutual

theorem hasSite_of_mem_namedSites {above : List (Tree × Nat)} {site : Site} :
    (tree : Tree) → root.HasSite { tree, above } → site ∈ tree.namedSites above → root.HasSite site
  | .node info children, has, listed => by
      rw [namedSites, List.mem_cons] at listed
      cases listed with
      | inl isTop => exact isTop ▸ has
      | inr lower =>
          exact hasSite_of_mem_namedSitesOf children (fun _ => has.of_mem_children) lower

theorem hasSite_of_mem_namedSitesOf {parent : Tree} {above : List (Tree × Nat)} {number : Nat}
    {site : Site} :
    (trees : List Tree) → (∀ child ∈ Site.childrenFrom parent above number trees, root.HasSite child) →
      site ∈ namedSitesOf parent above number trees → root.HasSite site
  | [], _, listed => by simp [namedSitesOf] at listed
  | tree :: rest, has, listed => by
      obtain ⟨hasFirst, hasRest⟩ := List.forall_mem_cons.mp has
      rw [namedSitesOf, List.mem_append] at listed
      cases listed with
      | inl inFirst =>
          split at inFirst
          next => exact hasSite_of_mem_namedSites tree hasFirst inFirst
          next => contradiction
      | inr inRest => exact hasSite_of_mem_namedSitesOf rest hasRest inRest

end

theorem hasSite_of_mem_sites {site : Site} (listed : site ∈ root.sites) : root.HasSite site :=
  hasSite_of_mem_namedSites root (.ofRoot root) listed

mutual

theorem hasSite_descend {above : List (Tree × Nat)} :
    (tree : Tree) → root.HasSite { tree, above } → root.HasSite (tree.descend offset above)
  | .node info children, has => by
      rw [descend]
      cases lower : descendInto offset (.node info children) above 0 children with
      | none => exact has
      | some site => exact hasSite_of_descendInto children (fun _ => has.of_mem_children) lower

theorem hasSite_of_descendInto {parent : Tree} {above : List (Tree × Nat)} {number : Nat}
    {site : Site} :
    (trees : List Tree) → (∀ child ∈ Site.childrenFrom parent above number trees, root.HasSite child) →
      descendInto offset parent above number trees = some site → root.HasSite site
  | [], _, found => by simp [descendInto] at found
  | tree :: rest, has, found => by
      obtain ⟨hasFirst, hasRest⟩ := List.forall_mem_cons.mp has
      rw [descendInto] at found
      split at found
      next => exact hasSite_of_descendInto rest hasRest found
      next =>
        split at found
        next => contradiction
        next =>
          cases found
          exact hasSite_descend tree hasFirst

end

theorem hasSite_siteAt (root : Tree) (offset : Nat) : root.HasSite (root.siteAt offset) :=
  hasSite_descend root (.ofRoot root)

end Tree

end InlineScript
