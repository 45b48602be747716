import Mathlib.Logic.Relation
import InlineScript.Proofs.Path.Naming

/-!
The normal form as a canonical one. It is what is left of a path when each `.` is dropped and each
`..` is folded into the name or the root before it, it has the shape in which nothing more can be
folded, and it can be taken of a directory first without changing what is found from there.
-/

namespace InlineScript.Path

variable {path other : Path} {normal components : List Component}

/-! ## Folding -/

/-- One step of folding: a `.` is dropped, a name goes with the `..` behind it, or a `..` behind the
root is dropped. -/
inductive Folds : List Component → List Component → Prop where
  | here (before after : List Component) : Folds (before ++ .here :: after) (before ++ after)
  | name (before : List Component) (label : List UInt8) (after : List Component) :
      Folds (before ++ .name label :: .up :: after) (before ++ after)
  | root (before after : List Component) :
      Folds (before ++ .root :: .up :: after) (before ++ .root :: after)

/-- What is added to a normal list folds into it. -/
theorem folds_addNormal {component : Component} (body : component ≠ .root)
    (after : List Component) :
    Relation.ReflTransGen Folds (normal.reverse ++ component :: after)
      ((addNormal normal component).reverse ++ after) := by
  have kept (component : Component) : normal.reverse ++ component :: after =
      (component :: normal).reverse ++ after := by simp
  cases component with
  | root => contradiction
  | here => exact .single (.here normal.reverse after)
  | name label =>
      rw [kept]
      exact .refl
  | up =>
      match normal with
      | [] => exact .refl
      | .name label :: below =>
          rw [List.reverse_cons, List.append_assoc]
          exact .single (.name below.reverse label after)
      | .root :: below =>
          rw [List.reverse_cons, List.append_assoc]
          change Relation.ReflTransGen Folds _ ((Component.root :: below).reverse ++ after)
          rw [List.reverse_cons, List.append_assoc]
          exact .single (.root below.reverse after)
      | .here :: below =>
          rw [kept]
          exact .refl
      | .up :: below =>
          rw [kept]
          exact .refl

theorem folds_foldl_addNormal (normal : List Component) (body : Component.root ∉ components) :
    Relation.ReflTransGen Folds (normal.reverse ++ components)
      (components.foldl addNormal normal).reverse := by
  induction components generalizing normal with
  | nil =>
      rw [List.append_nil]
      exact .refl
  | cons first rest ih =>
      have notRoot : first ≠ .root := fun same => body (same ▸ List.mem_cons_self)
      have restBody : .root ∉ rest := fun member => body (List.mem_cons_of_mem _ member)
      exact (folds_addNormal notRoot rest).trans (ih _ restBody)

/-! ## Roots -/

theorem root_not_mem_body (segments : List (List UInt8)) :
    Component.root ∉ segments.filterMap Component.ofSegment? := by
  intro member
  obtain ⟨segment, -, read⟩ := List.mem_filterMap.mp member
  have spelling := Component.label_of_ofSegment? read
  subst segment
  simp [Component.label, Component.ofSegment?] at read

/-- A path has a root at most, and that in front. -/
theorem root_mem_components_iff : .root ∈ path.components ↔ path.isAbsolute = true := by
  rw [components, List.mem_append]
  split
  next absolute => simp [absolute]
  next relative =>
    simp only [root_not_mem_body, or_false, relative]
    split <;> simp

theorem root_mem_addNormal_iff {component : Component} :
    .root ∈ addNormal normal component ↔ .root ∈ normal ∨ component = .root := by
  cases component with
  | root => simp [addNormal]
  | here => simp [addNormal]
  | name label => simp [addNormal]
  | up =>
      cases normal with
      | nil => simp [addNormal]
      | cons last _ => cases last <;> simp [addNormal]

theorem root_mem_foldl_addNormal_iff :
    .root ∈ components.foldl addNormal normal ↔ .root ∈ normal ∨ .root ∈ components := by
  induction components generalizing normal with
  | nil => simp
  | cons first rest ih =>
      rw [List.foldl_cons, ih, root_mem_addNormal_iff, List.mem_cons, or_assoc]
      simp only [eq_comm]

/-- A path in normal form starts at the root exactly if the path does. -/
theorem isAbsolute_normalize (path : Path) : path.normalize.isAbsolute = path.isAbsolute := by
  rw [Bool.eq_iff_iff, ← root_mem_components_iff, ← root_mem_components_iff, components_normalize,
    normalComponents, List.mem_reverse, root_mem_foldl_addNormal_iff]
  simp

/-- The normal components up to a path's first segment, last one first. -/
def start (path : Path) : List Component :=
  if path.isAbsolute then [.root] else []

/-- A leading `.` adds nothing. -/
theorem foldl_addNormal_components (path : Path) :
    path.components.foldl addNormal [] =
      (path.segments.filterMap Component.ofSegment?).foldl addNormal path.start := by
  rw [components, List.foldl_append, start]
  repeat' split
  all_goals rfl

theorem folds_normalize (path : Path) :
    Relation.ReflTransGen Folds path.components path.normalize.components := by
  have body (normal : List Component) :=
    folds_foldl_addNormal normal (root_not_mem_body path.segments)
  rw [components_normalize, normalComponents, foldl_addNormal_components, components, start]
  split
  · exact body [.root]
  · split
    · exact .head (.here [] _) (body [])
    · exact body []

/-! ## Shape -/

/-- Normal components are names behind the root, or behind a run of `..`. -/
theorem IsNormal.exists_shape (isNormal : IsNormal normal) :
    ∃ (lead : List Component) (labels : List (List UInt8)),
      normal.reverse = lead ++ labels.map Component.name ∧
        (lead = [.root] ∨ ∃ count, lead = List.replicate count .up) := by
  induction isNormal with
  | empty => exact ⟨[], [], rfl, .inr ⟨0, rfl⟩⟩
  | root => exact ⟨[.root], [], rfl, .inl rfl⟩
  | @up below ups =>
      have run : (.up :: below).reverse = List.replicate (below.length + 1) Component.up := by
        rw [List.eq_replicate_of_mem ups, ← List.replicate_succ, List.reverse_replicate,
          List.length_replicate]
      exact ⟨_, [], by rw [run, List.map_nil, List.append_nil], .inr ⟨_, rfl⟩⟩
  | @name label below _ _ ih =>
      obtain ⟨lead, labels, whole, shape⟩ := ih
      refine ⟨lead, labels ++ [label], ?_, shape⟩
      rw [List.reverse_cons, whole, List.map_append, List.append_assoc]
      rfl

theorem exists_components_normalize (path : Path) :
    ∃ (count : Nat) (labels : List (List UInt8)), path.normalize.components =
      (if path.isAbsolute then [.root] else List.replicate count .up) ++
        labels.map Component.name := by
  obtain ⟨lead, labels, whole, shape⟩ := path.isNormal_components.exists_shape
  have rooted : .root ∈ lead ↔ path.isAbsolute = true := by
    rw [← isAbsolute_normalize, ← root_mem_components_iff, components_normalize, normalComponents,
      whole]
    simp
  rw [components_normalize, normalComponents, whole]
  rcases shape with rfl | ⟨count, rfl⟩
  · exact ⟨0, labels, by rw [if_pos (rooted.mp List.mem_cons_self)]⟩
  · have relative : ¬ path.isAbsolute = true := by
      rw [← rooted]
      intro member
      exact Component.noConfusion (List.eq_of_mem_replicate member)
    exact ⟨count, labels, by rw [if_neg relative]⟩

/-! ## Directories -/

theorem isAbsolute_join (relative : other.isAbsolute = false) :
    (path.join other).isAbsolute = path.isAbsolute := by
  unfold join
  rw [if_neg (by simp [relative])]
  cases bytes : path.bytes with
  | nil =>
      rw [isAbsolute, isAbsolute, bytes]
      simpa [isAbsolute] using relative
  | cons first rest =>
      split <;> simp [isAbsolute, bytes]

/-- What follows in a relative path is added to the normal form of the directory. -/
theorem normalComponents_join (relative : other.isAbsolute = false) :
    normalComponents (path.join other).components =
      ((other.segments.filterMap Component.ofSegment?).foldl addNormal
        (path.components.foldl addNormal [])).reverse := by
  rw [normalComponents, foldl_addNormal_components, foldl_addNormal_components,
    filterMap_segments_join relative, List.foldl_append, start, isAbsolute_join relative]
  rfl

theorem normalize_join (path other : Path) :
    (path.join other).normalize = (path.normalize.join other).normalize := by
  cases relative : other.isAbsolute with
  | true => rw [join, if_pos relative, join, if_pos relative]
  | false =>
      have again : path.normalize.components.foldl addNormal [] =
          path.components.foldl addNormal [] := by
        rw [components_normalize]
        exact path.isNormal_components.foldl_reverse
      rw [normalize, normalize, normalComponents_join relative, normalComponents_join relative, again]

/-- The normal form of a path is what its components fold to: the root or, in a relative path, a run
of `..`, and names behind. It stands for itself, and for the path wherever something is joined. -/
theorem normalize_canonical (path other : Path) :
    Relation.ReflTransGen Folds path.components path.normalize.components ∧
      Component.here ∉ path.normalize.components ∧
      (∃ (count : Nat) (labels : List (List UInt8)), path.normalize.components =
        (if path.isAbsolute then [.root] else List.replicate count .up) ++
          labels.map Component.name) ∧
      path.normalize.isAbsolute = path.isAbsolute ∧
      path.normalize.normalize = path.normalize ∧
      (path.join other).normalize = (path.normalize.join other).normalize := by
  have shape := path.exists_components_normalize
  refine ⟨path.folds_normalize, ?_, shape, path.isAbsolute_normalize, path.normalize_normalize,
    path.normalize_join other⟩
  obtain ⟨count, labels, whole⟩ := shape
  rw [whole]
  split <;> simp [List.mem_replicate]

example : (ofText "../a/./b/../../c//x.ts").normalize = ofText "../c/x.ts" := by decide +kernel

end InlineScript.Path
