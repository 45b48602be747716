import Std.Data.TreeSet
import InlineScript.Path.Normal

/-!
Paths as keys. Two paths have the same place in the order when they have the same components, and
the normal form of a path is the only spelling of its normal components, so that normal forms with
the same place are equal.
-/

namespace InlineScript

open Component (slash dot)

/-- The pieces of what is cut at some elements have the other elements. -/
theorem Text.mem_of_mem_splitOnP {α : Type} {divides : α → Bool} {whole piece : List α}
    (member : piece ∈ whole.splitOnP divides) :
    ∀ element ∈ piece, element ∈ whole ∧ divides element = false := by
  induction whole generalizing piece with
  | nil =>
      rw [List.splitOnP_nil, List.mem_singleton] at member
      simp [member]
  | cons first rest ih =>
      obtain ⟨head, others, cut⟩ := List.exists_cons_of_ne_nil (List.splitOnP_ne_nil divides rest)
      rw [List.splitOnP_cons_eq_if_modifyHead, cut] at member
      rw [cut] at ih
      -- A piece of the rest stays one, and the first of them may get one element more.
      have later : ∀ piece ∈ head :: others, ∀ element ∈ piece,
          element ∈ first :: rest ∧ divides element = false := by
        intro piece inRest element inPiece
        obtain ⟨inWhole, kept⟩ := ih inRest element inPiece
        exact ⟨List.mem_cons_of_mem _ inWhole, kept⟩
      cases kept : divides first with
      | true =>
          rw [kept, if_pos rfl] at member
          rcases List.mem_cons.mp member with empty | inRest
          · simp [empty]
          · exact later piece inRest
      | false =>
          rw [kept, if_neg Bool.false_ne_true, List.modifyHead_cons] at member
          rcases List.mem_cons.mp member with longer | inOthers
          · subst piece
            intro element inPiece
            rcases List.mem_cons.mp inPiece with rfl | inHead
            · exact ⟨List.mem_cons_self, kept⟩
            · exact later head List.mem_cons_self element inHead
          · exact later piece (List.mem_cons_of_mem _ inOthers)

/-! ## Order -/

namespace Component

theorem eq_of_rank_of_label {first second : Component} (ranks : first.rank = second.rank)
    (labels : first.label = second.label) : first = second := by
  cases first <;> cases second <;> simp_all [rank, label]

instance : Std.LawfulEqOrd Component where
  eq_of_compare {first second} equal := by
    have lexical : (compare first.rank second.rank).then (compare first.label second.label) = .eq :=
      equal
    have both := Ordering.then_eq_eq.mp lexical
    exact eq_of_rank_of_label (Std.LawfulEqOrd.eq_of_compare both.1)
      (Std.LawfulEqOrd.eq_of_compare both.2)

end Component

namespace Path

theorem order_eq_iff {path other : Path} :
    order path other = .eq ↔ path.components = other.components :=
  Std.LawfulEqOrd.compare_eq_iff_eq

theorem order_eq_iff_same {path other : Path} : order path other = .eq ↔ path.same other = true := by
  rw [order_eq_iff, same, beq_iff_eq]

theorem same_comm (path other : Path) : path.same other = other.same path := by
  simp only [same, Bool.beq_comm]

/-- Paths are found in a map by their components. -/
theorem lawful_same : @Std.LawfulBEqCmp Path ⟨same⟩ order :=
  @Std.LawfulBEqCmp.mk Path ⟨same⟩ order order_eq_iff_same

/-! ## Components of a spelling -/

theorem slash_not_mem_segment {bytes segment : List UInt8} (member : segment ∈ bytes.splitOn slash) :
    slash ∉ segment := by
  intro inside
  rw [List.splitOn_eq_splitOnP] at member
  have kept := (Text.mem_of_mem_splitOnP member slash inside).2
  simp at kept

end Path

/-- A component that a segment spells. -/
def Component.IsSpelled (component : Component) : Prop :=
  slash ∉ component.label ∧ Component.ofSegment? component.label = some component

namespace Component

theorem isSpelled_up : IsSpelled .up := by
  constructor <;> decide

theorem label_of_ofSegment? {segment : List UInt8} {component : Component}
    (read : ofSegment? segment = some component) : component.label = segment := by
  unfold ofSegment? at read
  split at read
  · contradiction
  · split at read
    · rename_i up
      cases read
      exact up.symm
    · cases read
      rfl

theorem isSpelled_of_ofSegment? {segment : List UInt8} {component : Component}
    (free : slash ∉ segment) (read : ofSegment? segment = some component) :
    component.IsSpelled := by
  have spelling := label_of_ofSegment? read
  exact ⟨by rw [spelling]; exact free, by rw [spelling]; exact read⟩

theorem IsSpelled.label_ne_nil {component : Component} (spelled : component.IsSpelled) :
    component.label ≠ [] := by
  intro empty
  have read := spelled.2
  simp [empty, ofSegment?] at read

theorem IsSpelled.label_ne_dot {component : Component} (spelled : component.IsSpelled) :
    component.label ≠ [dot] := by
  intro single
  have read := spelled.2
  simp [single, ofSegment?] at read

/-- Components are read back from their labels. -/
theorem filterMap_ofSegment?_label {components : List Component}
    (spelled : ∀ component ∈ components, component.IsSpelled) :
    (components.map label).filterMap ofSegment? = components := by
  induction components with
  | nil => rfl
  | cons first rest ih =>
      have firstSpelled := spelled first List.mem_cons_self
      rw [List.map_cons, List.filterMap_cons_some firstSpelled.2,
        ih fun component member => spelled component (List.mem_cons_of_mem _ member)]

end Component

namespace Path

/-- Every component of a path is its root, its first dot, or spelled by a segment. -/
theorem components_cases {path : Path} {component : Component}
    (member : component ∈ path.components) :
    component = .root ∨ component = .here ∨ component.IsSpelled := by
  rcases List.mem_append.mp member with lead | body
  · split at lead
    · exact .inl (List.mem_singleton.mp lead)
    · split at lead
      · exact .inr (.inl (List.mem_singleton.mp lead))
      · exact absurd lead List.not_mem_nil
  · obtain ⟨segment, found, read⟩ := List.mem_filterMap.mp body
    exact .inr (.inr (Component.isSpelled_of_ofSegment? (slash_not_mem_segment found) read))

theorem segments_intercalate_label {components : List Component} (nonempty : components ≠ [])
    (spelled : ∀ component ∈ components, component.IsSpelled) :
    ([slash].intercalate (components.map Component.label)).splitOn slash =
      components.map Component.label := by
  apply List.splitOn_intercalate
  · intro label member
    obtain ⟨component, found, rfl⟩ := List.mem_map.mp member
    exact (spelled component found).1
  · simpa using nonempty

theorem components_absolute_spelling {components : List Component}
    (spelled : ∀ component ∈ components, component.IsSpelled) :
    (ofComponents (.root :: components)).components = .root :: components := by
  have body : (([slash].intercalate (components.map Component.label)).splitOn slash).filterMap
      Component.ofSegment? = components := by
    by_cases empty : components = []
    · subst components
      decide
    · rw [segments_intercalate_label empty spelled, Component.filterMap_ofSegment?_label spelled]
  have emptySegment : Component.ofSegment? [] = none := rfl
  simp only [Path.components, ofComponents, isAbsolute, segments, List.head?_cons, BEq.rfl, if_true,
    List.splitOn_cons_eq_if_modifyHead, List.filterMap_cons, emptySegment, body, List.cons_append,
    List.nil_append]

theorem ofComponents_of_spelled {components : List Component}
    (spelled : ∀ component ∈ components, component.IsSpelled) :
    ofComponents components = ⟨[slash].intercalate (components.map Component.label)⟩ := by
  match components with
  | [] => rfl
  | .root :: rest => exact absurd (spelled .root List.mem_cons_self).2 (by decide)
  | .here :: rest => rfl
  | .up :: rest => rfl
  | .name label :: rest => rfl

theorem components_relative_spelling {components : List Component}
    (spelled : ∀ component ∈ components, component.IsSpelled) :
    (ofComponents components).components = components := by
  rw [ofComponents_of_spelled spelled]
  match components with
  | [] => decide
  | first :: rest =>
      have firstSpelled := spelled first List.mem_cons_self
      generalize spelling : ([slash].intercalate ((first :: rest).map Component.label)) = bytes
      have segments : Path.segments ⟨bytes⟩ = (first :: rest).map Component.label := by
        rw [← spelling]
        exact segments_intercalate_label (List.cons_ne_nil first rest) spelled
      have relative : Path.isAbsolute ⟨bytes⟩ = false := by
        obtain ⟨byte, others, label⟩ := List.exists_cons_of_ne_nil firstSpelled.label_ne_nil
        have start : bytes.head? = some byte := by
          rw [← spelling]
          cases rest <;> simp [label, List.intercalate_cons_cons]
        have different : byte ≠ slash := by
          intro same
          exact firstSpelled.1 (by rw [label, same]; exact List.mem_cons_self)
        simpa [isAbsolute, start] using different
      have notHere : ((first :: rest).map Component.label).head? ≠ some [dot] := by
        simpa using firstSpelled.label_ne_dot
      simp only [Path.components, relative, segments, Bool.false_eq_true, if_false, if_neg notHere,
        List.nil_append, Component.filterMap_ofSegment?_label spelled]

/-! ## Normal form -/

/-- Normal components, last one first: names behind the root, or behind a run of `..`. -/
inductive IsNormal : List Component → Prop where
  | empty : IsNormal []
  | root : IsNormal [.root]
  | up {below : List Component} (ups : ∀ component ∈ below, component = .up) :
      IsNormal (.up :: below)
  | name {label : List UInt8} {below : List Component} (spelled : (Component.name label).IsSpelled)
      (normal : IsNormal below) : IsNormal (.name label :: below)

theorem IsNormal.addNormal {normal : List Component} (isNormal : IsNormal normal)
    {component : Component}
    (allowed : component = .root ∨ component = .here ∨ component.IsSpelled) :
    IsNormal (addNormal normal component) := by
  cases component with
  | root => exact .root
  | here => exact isNormal
  | name label =>
      rcases allowed with root | here | spelled
      · cases root
      · cases here
      · exact .name spelled isNormal
  | up =>
      cases isNormal with
      | empty => exact .up (by simp)
      | root => exact .root
      | up ups => exact .up (by simpa using ups)
      | name _ below => exact below

theorem IsNormal.foldl_addNormal {components : List Component}
    (allowed : ∀ component ∈ components,
      component = .root ∨ component = .here ∨ component.IsSpelled)
    {normal : List Component} (isNormal : IsNormal normal) :
    IsNormal (components.foldl Path.addNormal normal) := by
  induction components generalizing normal with
  | nil => exact isNormal
  | cons first rest ih =>
      exact ih (fun component member => allowed component (List.mem_cons_of_mem _ member))
        (isNormal.addNormal (allowed first List.mem_cons_self))

/-- Normal components stay as they are. -/
theorem IsNormal.foldl_reverse {normal : List Component} (isNormal : IsNormal normal) :
    normal.reverse.foldl Path.addNormal [] = normal := by
  rw [List.foldl_reverse]
  induction isNormal with
  | empty => rfl
  | root => rfl
  | name _ _ ih => rw [List.foldr_cons, ih]; rfl
  | @up below ups =>
      induction below with
      | nil => rfl
      | cons first rest ih =>
          obtain rfl : first = .up := ups first List.mem_cons_self
          rw [List.foldr_cons, ih fun component member => ups component (List.mem_cons_of_mem _ member)]
          rfl

/-- Only the first component can be the root. -/
theorem IsNormal.spelled_or_rooted {normal : List Component} (isNormal : IsNormal normal) :
    (∀ component ∈ normal, component.IsSpelled) ∨
      ∃ names, normal = names ++ [.root] ∧ ∀ component ∈ names, component.IsSpelled := by
  induction isNormal with
  | empty => exact .inl (by simp)
  | root => exact .inr ⟨[], rfl, by simp⟩
  | up ups =>
      refine .inl fun component member => ?_
      rcases List.mem_cons.mp member with rfl | member
      · exact Component.isSpelled_up
      · rw [ups component member]
        exact Component.isSpelled_up
  | @name label below spelled _ ih =>
      rcases ih with relative | ⟨names, rfl, absolute⟩
      · exact .inl (by simpa using ⟨spelled, relative⟩)
      · exact .inr ⟨.name label :: names, rfl, by simpa using ⟨spelled, absolute⟩⟩

theorem IsNormal.components_ofComponents {normal : List Component} (isNormal : IsNormal normal) :
    (ofComponents normal.reverse).components = normal.reverse := by
  rcases isNormal.spelled_or_rooted with relative | ⟨names, rfl, absolute⟩
  · exact components_relative_spelling fun component member =>
      relative component (List.mem_reverse.mp member)
  · rw [List.reverse_append, List.reverse_singleton, List.singleton_append]
    exact components_absolute_spelling fun component member =>
      absolute component (List.mem_reverse.mp member)

theorem isNormal_components (path : Path) :
    IsNormal (path.components.foldl addNormal []) :=
  IsNormal.foldl_addNormal (fun _ member => components_cases member) .empty

theorem components_normalize (path : Path) :
    path.normalize.components = normalComponents path.components :=
  path.isNormal_components.components_ofComponents

theorem normalComponents_normalize (path : Path) :
    normalComponents path.normalize.components = path.normalize.components := by
  rw [components_normalize, normalComponents, normalComponents, path.isNormal_components.foldl_reverse]

theorem ofComponents_normalize (path : Path) :
    ofComponents path.normalize.components = path.normalize := by
  rw [components_normalize, normalize]

@[simp] theorem normalize_normalize (path : Path) : path.normalize.normalize = path.normalize := by
  rw [normalize, normalComponents_normalize, ofComponents_normalize]

/-- Normal forms are equal as soon as their components are. -/
theorem order_normalize_eq_iff {path other : Path} :
    order path.normalize other.normalize = .eq ↔ path.normalize = other.normalize := by
  rw [order_eq_iff]
  constructor
  · intro same
    rw [← ofComponents_normalize path, same, ofComponents_normalize]
  · exact congrArg components

theorem eq_of_same {path other : Path} (normal : path.normalize = path)
    (otherNormal : other.normalize = other) (alike : path.same other = true) : path = other := by
  rw [← normal, ← otherNormal] at alike ⊢
  exact order_normalize_eq_iff.mp (order_eq_iff_same.mpr alike)

/-! ## Sets of paths -/

section

variable {set : Std.TreeSet Path order} {paths : List Path} {path : Path}

theorem mem_toList_insertMany (member : path ∈ (set.insertMany paths).toList) :
    path ∈ set.toList ∨ path ∈ paths := by
  let : BEq Path := ⟨same⟩
  have : Std.LawfulBEqCmp order := lawful_same
  induction paths generalizing set with
  | nil => exact .inl member
  | cons first rest ih =>
      rw [Std.TreeSet.insertMany_cons] at member
      rcases ih member with inserted | inRest
      · rw [Std.TreeSet.toList_insert_perm.mem_iff] at inserted
        split at inserted
        · exact .inl inserted
        · rcases List.mem_cons.mp inserted with rfl | old
          · exact .inr List.mem_cons_self
          · exact .inl old
      · exact .inr (List.mem_cons_of_mem first inRest)

/-- Among paths in normal form none is lost. -/
theorem mem_toList_insertMany_iff (normalSet : ∀ path ∈ set.toList, path.normalize = path)
    (normal : ∀ path ∈ paths, path.normalize = path) :
    path ∈ (set.insertMany paths).toList ↔ path ∈ set.toList ∨ path ∈ paths := by
  let : BEq Path := ⟨same⟩
  have : Std.LawfulBEqCmp order := lawful_same
  have normalOf {path : Path} (member : path ∈ set.toList ∨ path ∈ paths) : path.normalize = path :=
    member.elim (normalSet path) (normal path)
  refine ⟨mem_toList_insertMany, ?_⟩
  intro member
  have listed : (set.toList ++ paths).any (path == ·) = true :=
    List.any_eq_true.mpr ⟨path, List.mem_append.mpr member, beq_self_eq_true path.components⟩
  have found : (set.insertMany paths).toList.any (path == ·) = true := by
    rwa [← List.contains_eq_any_beq, Std.TreeSet.contains_toList,
      Std.TreeSet.contains_insertMany_list, ← Std.TreeSet.contains_toList,
      List.contains_eq_any_beq, List.contains_eq_any_beq, ← List.any_append]
  obtain ⟨other, kept, alike⟩ := List.any_eq_true.mp found
  have equal := eq_of_same (normalOf member) (normalOf (mem_toList_insertMany kept)) alike
  rw [equal]
  exact kept

theorem mem_toList_ofList_iff (normal : ∀ path ∈ paths, path.normalize = path) :
    path ∈ (Std.TreeSet.ofList paths order).toList ↔ path ∈ paths := by
  have empty : (∅ : Std.TreeSet Path order).toList = [] := rfl
  rw [Std.TreeSet.ofList_eq_insertMany_empty, mem_toList_insertMany_iff ?_ normal, empty]
  · simp
  · simp [empty]

end

/-! ## Last component -/

theorem normalComponents_concat_name (components : List Component) (label : List UInt8) :
    normalComponents (components ++ [.name label]) = normalComponents components ++ [.name label] := by
  simp [normalComponents, addNormal]

/-- A name at the end stays there. -/
theorem getLast?_normalComponents {components : List Component} {label : List UInt8}
    (last : components.getLast? = some (.name label)) :
    (normalComponents components).getLast? = some (.name label) := by
  obtain ⟨front, rfl⟩ := List.getLast?_eq_some_iff.mp last
  rw [normalComponents_concat_name, List.getLast?_concat]

theorem isAbsolute_label {component : Component} (spelled : component.IsSpelled) :
    isAbsolute ⟨component.label⟩ = false := by
  cases label : component.label with
  | nil => rfl
  | cons byte rest =>
      have different : byte ≠ slash := by
        rintro rfl
        exact spelled.1 (by simp [label])
      simpa [isAbsolute] using different

/-- A path that begins like another one and has a name more. -/
theorem components_of_segments {path dir : Path} {label : List UInt8}
    (spelled : (Component.name label).IsSpelled) (start : path.isAbsolute = dir.isAbsolute)
    (lead : path.segments.head? = dir.segments.head?)
    (body : path.segments.filterMap Component.ofSegment? =
      (dir.segments ++ [label]).filterMap Component.ofSegment?) :
    path.components = dir.components ++ [.name label] := by
  have read : Component.ofSegment? label = some (.name label) := spelled.2
  simp only [Path.components, start, lead, body, List.filterMap_append,
    List.filterMap_cons_some read, List.filterMap_nil, List.append_assoc]

/-- What a name means in a directory has the name behind the components of the directory. -/
theorem components_join_name (dir : Path) {label : List UInt8}
    (spelled : (Component.name label).IsSpelled) :
    (dir.join ⟨label⟩).components = dir.components ++ [.name label] := by
  have alone : label.splitOn slash = [label] := List.splitOn_eq_singleton spelled.1
  have relative : isAbsolute ⟨label⟩ = false := isAbsolute_label spelled
  have read : Component.ofSegment? label = some (.name label) := spelled.2
  unfold join
  rw [if_neg (by simp [relative])]
  split
  · rename_i open_
    by_cases empty : dir.bytes = []
    · have noDot : label ≠ [dot] := spelled.label_ne_dot
      have nothing : dir.components = [] := by
        simp [Path.components, isAbsolute, segments, empty, Component.ofSegment?]
      rw [nothing, empty, List.nil_append, Path.components, relative]
      simp [segments, alone, noDot, read]
    · have closed : dir.bytes.getLast? = some slash := by simpa [empty] using open_
      obtain ⟨front, bytes⟩ := List.getLast?_eq_some_iff.mp closed
      obtain ⟨first, others, cut⟩ := List.exists_cons_of_ne_nil (List.splitOn_ne_nil slash front)
      have idle : Component.ofSegment? [] = none := rfl
      apply components_of_segments spelled
      · cases front <;> simp [isAbsolute, bytes]
      · simp [segments, bytes, List.splitOn_append_cons_self, cut]
      · simp [segments, bytes, List.splitOn_append_cons_self, alone, idle]
  · rename_i closed
    obtain ⟨byte, rest, bytes⟩ := List.exists_cons_of_ne_nil (l := dir.bytes) (by
      intro empty
      simp [empty] at closed)
    obtain ⟨first, others, cut⟩ := List.exists_cons_of_ne_nil (List.splitOn_ne_nil slash dir.bytes)
    apply components_of_segments spelled
    · simp [isAbsolute, bytes]
    · simp [segments, List.splitOn_append_cons_self, cut]
    · simp [segments, List.splitOn_append_cons_self, alone]

theorem getLast?_components_join (dir : Path) {label : List UInt8}
    (spelled : (Component.name label).IsSpelled) :
    (dir.join ⟨label⟩).components.getLast? = some (.name label) := by
  rw [components_join_name dir spelled]
  exact List.getLast?_concat

end Path

end InlineScript
