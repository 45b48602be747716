import Mathlib.Data.List.Nodup
import InlineScript.Proofs.Tree.Sites

/-!
Walks through a tree that visit a node before those below it and go on to some of its children only.
A walk visits each site once, and the sites that it visits are those that are reached from the first
one through nodes which it enters.
-/

namespace InlineScript

namespace Site

variable {site child inner other : Site} {enters : Tree → Bool}

/-! ## Children of a site -/

theorem map_tree_childrenFrom (parent : Tree) (above : List (Tree × Nat)) (number : Nat)
    (trees : List Tree) : (childrenFrom parent above number trees).map tree = trees := by
  induction trees generalizing number with
  | nil => rfl
  | cons first rest ih => rw [childrenFrom, List.map_cons, ih]

@[simp] theorem map_tree_children (site : Site) : site.children.map tree = site.tree.children :=
  map_tree_childrenFrom _ _ _ _

theorem map_tree_namedChildren (site : Site) :
    site.namedChildren.map tree = site.tree.namedChildren := by
  rw [namedChildren, Tree.namedChildren, ← map_tree_children, List.filter_map]
  rfl

theorem map_tree_field? (site : Site) (name : String) :
    (site.field? name).map tree = site.tree.field? name := by
  rw [field?, Tree.field?, ← map_tree_children, List.find?_map]
  rfl

theorem pairwise_childrenFrom (parent : Tree) (above : List (Tree × Nat)) (number : Nat)
    (trees : List Tree) :
    (childrenFrom parent above number trees).Pairwise fun first second =>
      first.above ≠ second.above := by
  induction trees generalizing number with
  | nil => exact .nil
  | cons first rest ih =>
      refine .cons (fun second listed => ?_) (ih (number + 1))
      obtain ⟨index, -, way⟩ := mem_childrenFrom_iff.mp listed
      rw [way]
      simp only [ne_eq, List.cons.injEq, Prod.mk.injEq, true_and, and_true]
      omega

/-- The children of a site differ in their numbers. -/
theorem pairwise_children (site : Site) :
    site.children.Pairwise fun first second => first.above ≠ second.above :=
  pairwise_childrenFrom _ _ _ _

theorem sizeOf_lt_of_mem_children (listed : child ∈ site.children) :
    sizeOf child.tree < sizeOf site.tree := by
  have isChild := tree_mem_of_mem_children listed
  cases tree : site.tree with
  | node info children =>
      rw [tree] at isChild
      have smaller := List.sizeOf_lt_of_mem isChild
      simp only [Tree.children] at smaller
      simp only [Tree.node.sizeOf_spec]
      omega

/-- What holds of a site if it holds of its children holds of all sites. -/
theorem induction {holds : Site → Prop}
    (step : ∀ site, (∀ child ∈ site.children, holds child) → holds site) (site : Site) :
    holds site :=
  step site fun child _ => induction step child
termination_by sizeOf site.tree
decreasing_by exact sizeOf_lt_of_mem_children ‹_›

end Site

/-! ## Walks -/

namespace Tree

mutual

/-- A node and those below it that are reached through nodes which are entered, each before those
below it. -/
def walk (enters : Tree → Bool) (above : List (Tree × Nat)) : Tree → List Site
  | .node info children =>
      { tree := .node info children, above }
        :: walkOf enters (.node info children) above 0 children

def walkOf (enters : Tree → Bool) (parent : Tree) (above : List (Tree × Nat)) :
    Nat → List Tree → List Site
  | _, [] => []
  | number, tree :: rest =>
      (if enters tree then tree.walk enters ((parent, number) :: above) else [])
        ++ walkOf enters parent above (number + 1) rest

end

mutual

theorem namedSites_eq_walk (above : List (Tree × Nat)) :
    (tree : Tree) → tree.namedSites above = tree.walk (·.info.named) above
  | .node info children => by rw [namedSites, walk, namedSitesOf_eq_walkOf]

theorem namedSitesOf_eq_walkOf (parent : Tree) (above : List (Tree × Nat)) (number : Nat) :
    (trees : List Tree) →
      namedSitesOf parent above number trees = walkOf (·.info.named) parent above number trees
  | [] => rfl
  | tree :: rest => by
      rw [namedSitesOf, walkOf, namedSites_eq_walk, namedSitesOf_eq_walkOf parent above _ rest]

end

end Tree

namespace Site

variable {site child inner other : Site} {enters : Tree → Bool}

/-- The sites at and below a site that a walk visits. -/
def walk (enters : Tree → Bool) (site : Site) : List Site :=
  site.tree.walk enters site.above

theorem walkOf_eq (enters : Tree → Bool) (parent : Tree) (above : List (Tree × Nat)) (number : Nat)
    (trees : List Tree) :
    Tree.walkOf enters parent above number trees =
      ((childrenFrom parent above number trees).filter fun child => enters child.tree).flatMap
        (walk enters) := by
  induction trees generalizing number with
  | nil => rfl
  | cons first rest ih =>
      rw [Tree.walkOf, childrenFrom, ih, List.filter_cons]
      split <;> rfl

theorem walk_eq (enters : Tree → Bool) (site : Site) :
    site.walk enters =
      site :: (site.children.filter fun child => enters child.tree).flatMap (walk enters) := by
  obtain ⟨tree, above⟩ := site
  cases tree with
  | node info children => rw [walk, Tree.walk, walkOf_eq]; rfl

theorem mem_walk_self (enters : Tree → Bool) (site : Site) : site ∈ site.walk enters := by
  rw [walk_eq]
  exact List.mem_cons_self

/-- Whether a walk goes from a site to another one. -/
def Enters (enters : Tree → Bool) (parent child : Site) : Prop :=
  child ∈ parent.children ∧ enters child.tree = true

theorem mem_walk_cons_iff :
    inner ∈ site.walk enters ↔
      inner = site ∨ ∃ child, Enters enters site child ∧ inner ∈ child.walk enters := by
  rw [walk_eq, List.mem_cons, List.mem_flatMap]
  simp only [List.mem_filter, Enters]

/-- A walk visits what it reaches. -/
theorem mem_walk_iff :
    inner ∈ site.walk enters ↔ Relation.ReflTransGen (Enters enters) site inner := by
  induction site using Site.induction with
  | step site ih =>
      rw [mem_walk_cons_iff, Relation.ReflTransGen.cases_head_iff, eq_comm]
      refine or_congr Iff.rfl (exists_congr fun child => and_congr_right fun entered => ?_)
      exact ih child entered.1

theorem isSuffix_above_of_mem_walk (visited : inner ∈ site.walk enters) :
    site.above <:+ inner.above := by
  rw [mem_walk_iff] at visited
  induction visited with
  | refl => exact List.suffix_rfl
  | tail _ entered ih =>
      obtain ⟨number, -, way⟩ := mem_children_iff.mp entered.1
      rw [way]
      exact ih.trans (List.suffix_cons _ _)

theorem length_above_of_mem_children (listed : child ∈ site.children) :
    child.above.length = site.above.length + 1 := by
  obtain ⟨number, -, way⟩ := mem_children_iff.mp listed
  rw [way, List.length_cons]

/-- Each site is visited once. -/
theorem nodup_walk (enters : Tree → Bool) (site : Site) : (site.walk enters).Nodup := by
  induction site using Site.induction with
  | step site ih =>
      have isChild {child : Site}
          (listed : child ∈ site.children.filter fun child => enters child.tree) :
          child ∈ site.children := (List.mem_filter.mp listed).1
      rw [walk_eq, List.nodup_cons, List.nodup_flatMap]
      refine ⟨fun visited => ?_, fun child listed => ih child (isChild listed), ?_⟩
      · obtain ⟨child, listed, below⟩ := List.mem_flatMap.mp visited
        have shorter := (isSuffix_above_of_mem_walk below).length_le
        rw [length_above_of_mem_children (isChild listed)] at shorter
        omega
      · refine (site.pairwise_children.filter _).imp_of_mem ?_
        intro first second firstListed secondListed apart inner inFirst inSecond
        -- Ways that one way ends with are the same if they are equally long.
        have length : first.above.length = second.above.length := by
          rw [length_above_of_mem_children (isChild firstListed),
            length_above_of_mem_children (isChild secondListed)]
        have suffix := List.suffix_of_suffix_length_le (isSuffix_above_of_mem_walk inFirst)
          (isSuffix_above_of_mem_walk inSecond) (Nat.le_of_eq length)
        exact apart (suffix.eq_of_length length)

end Site

namespace Tree

variable {root : Tree} {site : Site}

theorem hasSite_iff_mem_walk :
    root.HasSite site ↔ site ∈ (Site.ofRoot root).walk fun _ => true := by
  have freely : Site.Enters (fun _ => true) = fun parent child => child ∈ parent.children := by
    funext parent child
    simp [Site.Enters]
  rw [Site.mem_walk_iff, freely, HasSite]

/-- Whether a site is reached from the root of a tree through named nodes. -/
def HasNamedSite (root : Tree) (site : Site) : Prop :=
  Relation.ReflTransGen (fun parent child => child ∈ parent.namedChildren) (Site.ofRoot root) site

theorem sites_eq_walk (root : Tree) : root.sites = (Site.ofRoot root).walk (·.info.named) :=
  namedSites_eq_walk [] root

theorem mem_sites_iff : site ∈ root.sites ↔ root.HasNamedSite site := by
  have named : Site.Enters (·.info.named) = fun parent child => child ∈ parent.namedChildren := by
    funext parent child
    simp [Site.Enters, Site.namedChildren]
  rw [sites_eq_walk, Site.mem_walk_iff, named, HasNamedSite]

theorem nodup_sites (root : Tree) : root.sites.Nodup := by
  rw [sites_eq_walk]
  exact Site.nodup_walk _ _

end Tree

end InlineScript
