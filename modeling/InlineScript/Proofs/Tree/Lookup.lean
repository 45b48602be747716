import InlineScript.Proofs.Tree.Sites

/-!
The node at an offset. A node that is reached below the root has begun at the offset and does not end
before it. In a tree without empty nodes whose siblings stand in order, every offset inside a leaf
leads to that leaf.
-/

namespace InlineScript

namespace Tree

/-! ## Trees in order -/

/-- Whether no node of a tree ends before it starts and siblings stand one behind the other. -/
def Ordered (tree : Tree) : Prop :=
  tree.Everywhere fun node =>
    node.start ≤ node.stop ∧ node.children.Pairwise fun first second => first.stop ≤ second.start

def Filled (tree : Tree) : Prop :=
  tree.Everywhere fun node => node.start < node.stop

instance (tree : Tree) : Decidable tree.Ordered :=
  inferInstanceAs (Decidable (tree.Everywhere _))

instance (tree : Tree) : Decidable tree.Filled :=
  inferInstanceAs (Decidable (tree.Everywhere _))

variable {root tree : Tree} {site child parent : Site} {offset : Nat}

theorem HasSite.start_le_stop (has : root.HasSite site) (ordered : root.Ordered) :
    site.tree.start ≤ site.tree.stop :=
  (everywhere_iff.mp (has.everywhere ordered)).1.1

theorem HasSite.start_lt_stop (has : root.HasSite site) (filled : root.Filled) :
    site.tree.start < site.tree.stop :=
  (everywhere_iff.mp (has.everywhere filled)).1

theorem HasSite.stop_le (has : root.HasSite site) (nests : root.Nests) :
    site.tree.stop ≤ root.stop := by
  cases Relation.reflTransGen_iff_eq_or_transGen.mp has with
  | inl isRoot => rw [isRoot]; exact Nat.le_refl _
  | inr below => exact (Site.Below.covers below nests).2

/-! ## What is found has begun -/

theorem endsBefore_eq_false_iff :
    tree.endsBefore offset = false ↔
      offset < tree.stop ∨ offset = tree.stop ∧ tree.start = tree.stop := by
  simp only [endsBefore, Bool.or_eq_false_iff, decide_eq_false_iff_not, Bool.and_eq_false_iff,
    beq_eq_false_iff_ne, bne_eq_false_iff_eq]
  omega

def IsAt (tree : Tree) (offset : Nat) : Prop :=
  tree.start ≤ offset ∧ tree.endsBefore offset = false

theorem IsAt.start_le (found : tree.IsAt offset) : tree.start ≤ offset :=
  found.1

theorem IsAt.le_stop (found : tree.IsAt offset) : offset ≤ tree.stop := by
  have ends := endsBefore_eq_false_iff.mp found.2
  omega

/-- A node at an offset ends behind it, unless it is empty. -/
theorem IsAt.lt_stop_iff (found : tree.IsAt offset) : offset < tree.stop ↔ tree.start < tree.stop := by
  have begun := found.1
  have ends := endsBefore_eq_false_iff.mp found.2
  omega

mutual

theorem descend_cases (above : List (Tree × Nat)) :
    (tree : Tree) →
      tree.descend offset above = { tree, above } ∨ (tree.descend offset above).tree.IsAt offset
  | .node info children => by
      rw [descend]
      cases lower : descendInto offset (.node info children) above 0 children with
      | none => exact .inl rfl
      | some site => exact .inr (isAt_of_descendInto children lower)

theorem isAt_of_descendInto {parent : Tree} {above : List (Tree × Nat)} {number : Nat}
    {site : Site} :
    (trees : List Tree) → descendInto offset parent above number trees = some site →
      site.tree.IsAt offset
  | [], found => by simp [descendInto] at found
  | tree :: rest, found => by
      rw [descendInto] at found
      split at found
      next => exact isAt_of_descendInto rest found
      next goesOn =>
        split at found
        next => contradiction
        next begun =>
          cases found
          cases descend_cases ((parent, number) :: above) tree with
          | inl stays =>
              rw [stays]
              exact ⟨Nat.le_of_not_lt begun, eq_false_of_ne_true goesOn⟩
          | inr lower => exact lower

end

theorem siteAt_cases (root : Tree) (offset : Nat) :
    root.siteAt offset = Site.ofRoot root ∨ (root.siteAt offset).tree.IsAt offset :=
  descend_cases [] root

/-! ## Every offset of a leaf leads to it -/

theorem descendInto_of_ended {parent : Tree} {above : List (Tree × Nat)} {earlier : List Tree}
    (ended : ∀ other ∈ earlier, other.endsBefore offset = true) (number : Nat) (later : List Tree) :
    descendInto offset parent above number (earlier ++ later) =
      descendInto offset parent above (number + earlier.length) later := by
  induction earlier generalizing number with
  | nil => rfl
  | cons first rest ih =>
      have restEnded := fun other listed => ended other (List.mem_cons_of_mem _ listed)
      rw [List.cons_append, descendInto, if_pos (ended first List.mem_cons_self), ih restEnded,
        List.length_cons, Nat.add_assoc, Nat.add_comm 1]

theorem descendInto_of_isAt {parent : Tree} {above : List (Tree × Nat)} (found : tree.IsAt offset)
    (number : Nat) (later : List Tree) :
    descendInto offset parent above number (tree :: later) =
      some (tree.descend offset ((parent, number) :: above)) := by
  rw [descendInto, if_neg (by simp [found.2]), if_neg (Nat.not_lt.mpr found.1)]

theorem descend_of_leaf (leaf : tree.children = []) (above : List (Tree × Nat)) :
    tree.descend offset above = { tree, above } := by
  obtain ⟨info, children⟩ := tree
  obtain rfl : children = [] := leaf
  rfl

/-- The way to an offset goes down to a child that has begun and goes on, as all children before it
have ended. -/
theorem descend_of_mem_children (listed : child ∈ parent.children) (ordered : parent.tree.Ordered)
    (filled : parent.tree.Filled) (begun : child.tree.start ≤ offset)
    (goesOn : offset < child.tree.stop) :
    parent.tree.descend offset parent.above = child.tree.descend offset child.above := by
  obtain ⟨number, found, way⟩ := Site.mem_children_iff.mp listed
  obtain ⟨inside, same⟩ := List.getElem?_eq_some_iff.mp found
  have split : parent.tree.children =
      parent.tree.children.take number ++ child.tree :: parent.tree.children.drop (number + 1) := by
    rw [← same, ← List.drop_eq_getElem_cons inside, List.take_append_drop]
  have apart := (everywhere_iff.mp ordered).1.2
  rw [split, List.pairwise_append] at apart
  have ended : ∀ other ∈ parent.tree.children.take number, other.endsBefore offset = true := by
    intro other earlier
    have before := apart.2.2 other earlier child.tree List.mem_cons_self
    -- an empty node that ends at the offset would not count as ended
    have filledOther := (everywhere_iff.mp
      ((everywhere_iff.mp filled).2 other (List.mem_of_mem_take earlier))).1
    rw [← Bool.not_eq_false, endsBefore_eq_false_iff]
    omega
  have isAt : child.tree.IsAt offset := ⟨begun, endsBefore_eq_false_iff.mpr (.inl goesOn)⟩
  have down : descendInto offset parent.tree parent.above 0 parent.tree.children =
      some (child.tree.descend offset child.above) := by
    rw [split, descendInto_of_ended ended, descendInto_of_isAt isAt, way, List.length_take,
      Nat.min_eq_left (Nat.le_of_lt inside), Nat.zero_add]
  obtain ⟨tree, above⟩ := parent
  obtain ⟨info, children⟩ := tree
  rw [descend]
  exact congrArg (Option.getD · _) down

/-- The way from the root to an offset passes each site that contains the offset. -/
theorem siteAt_eq_descend (nests : root.Nests) (ordered : root.Ordered) (filled : root.Filled)
    (has : root.HasSite site) (begun : site.tree.start ≤ offset) (goesOn : offset < site.tree.stop) :
    root.siteAt offset = site.tree.descend offset site.above := by
  induction has with
  | refl => rfl
  | @tail parent site isBelow listed ih =>
      have hasParent : root.HasSite parent := isBelow
      have covers := (everywhere_iff.mp (hasParent.everywhere nests)).1 _
        (Site.tree_mem_of_mem_children listed)
      rw [ih (Nat.le_trans covers.1 begun) (Nat.lt_of_lt_of_le goesOn covers.2)]
      exact descend_of_mem_children listed (hasParent.everywhere ordered)
        (hasParent.everywhere filled) begun goesOn

theorem siteAt_eq_of_leaf (nests : root.Nests) (ordered : root.Ordered) (filled : root.Filled)
    (has : root.HasSite site) (leaf : site.tree.children = []) (begun : site.tree.start ≤ offset)
    (goesOn : offset < site.tree.stop) : root.siteAt offset = site := by
  rw [siteAt_eq_descend nests ordered filled has begun goesOn, descend_of_leaf leaf]

end Tree

end InlineScript
