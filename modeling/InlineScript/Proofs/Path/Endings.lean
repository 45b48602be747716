import InlineScript.Proofs.Path.Canonical

/-!
Paths in normal form that get a name or an ending more. They stay in normal form, whether the ending
goes to the whole name or takes the place of an extension.
-/

namespace InlineScript.Path

open Component (slash dot)

variable {path dir : Path} {label body : List UInt8} {components normal : List Component}

/-! ## One component more -/

/-- What is read in a directory stands behind the same bytes, whatever it is. -/
theorem exists_front (dir : Path) :
    ∃ front, Opens front ∧
      ∀ label, isAbsolute ⟨label⟩ = false → dir.join ⟨label⟩ = ⟨front ++ label⟩ := by
  by_cases opened : (dir.bytes.isEmpty || dir.bytes.getLast? == some slash) = true
  · refine ⟨dir.bytes, ?_, fun label relative => ?_⟩
    · simpa [Opens, List.getLast?_eq_some_iff] using opened
    · rw [join, if_neg (by simp [relative]), if_pos opened]
  · refine ⟨dir.bytes ++ [slash], .inr ⟨_, rfl⟩, fun label relative => ?_⟩
    rw [join, if_neg (by simp [relative]), if_neg opened]
    simp

/-- Labels between slashes do not end with one. -/
theorem getLast?_intercalate_label (spelled : ∀ component ∈ components, component.IsSpelled)
    (nonempty : components ≠ []) :
    [slash].intercalate (components.map Component.label) ≠ [] ∧
      ([slash].intercalate (components.map Component.label)).getLast? ≠ some slash := by
  obtain ⟨others, last, rfl⟩ := List.eq_nil_or_concat components |>.resolve_left nonempty
  have lastSpelled := spelled last (by simp)
  obtain ⟨front, -, whole⟩ := exists_opens_intercalate (others.map Component.label) last.label
  obtain ⟨byte, ends⟩ := Option.ne_none_iff_exists'.mp
    (mt List.getLast?_eq_none_iff.mp lastSpelled.label_ne_nil)
  have different : byte ≠ slash := by
    rintro rfl
    exact lastSpelled.1 (List.mem_of_getLast? ends)
  rw [List.concat_eq_append, List.map_append, List.map_singleton, whole]
  exact ⟨by simp [lastSpelled.label_ne_nil], by simpa [List.getLast?_append, ends] using different⟩

theorem join_label_of_closed {bytes : List UInt8} {component : Component}
    (nonempty : bytes ≠ []) (closed : bytes.getLast? ≠ some slash) (spelled : component.IsSpelled) :
    join ⟨bytes⟩ ⟨component.label⟩ = ⟨bytes ++ slash :: component.label⟩ := by
  rw [join, if_neg (by simp [isAbsolute_label spelled]), if_neg (by simp [nonempty, closed])]

/-- Spelling one component more is reading it in the directory of the others. -/
theorem IsNormal.ofComponents_concat {component : Component} (isNormal : IsNormal normal)
    (spelled : component.IsSpelled) :
    ofComponents (normal.reverse ++ [component]) =
      (ofComponents normal.reverse).join ⟨component.label⟩ := by
  have relativeLabel := isAbsolute_label spelled
  rcases isNormal.spelled_or_rooted with relative | ⟨names, rfl, absolute⟩
  · have all : ∀ other ∈ normal.reverse, other.IsSpelled := by simpa using relative
    rw [ofComponents_of_spelled all, ofComponents_of_spelled
      (List.forall_mem_append.mpr ⟨all, List.forall_mem_singleton.mpr spelled⟩), List.map_append]
    by_cases empty : normal.reverse = []
    · rw [empty, join, if_neg (by simp [relativeLabel])]
      simp
    · obtain ⟨nonempty, closed⟩ := getLast?_intercalate_label all empty
      rw [join_label_of_closed nonempty closed spelled, intercalate_slash_append (by simpa using empty)]
      simp
  · have all : ∀ other ∈ names.reverse, other.IsSpelled := by simpa using absolute
    rw [List.reverse_append, List.reverse_singleton, List.singleton_append, List.cons_append,
      ofComponents, ofComponents, List.map_append]
    by_cases empty : names.reverse = []
    · rw [empty, join, if_neg (by simp [relativeLabel])]
      simp
    · obtain ⟨nonempty, closed⟩ := getLast?_intercalate_label all empty
      rw [join_label_of_closed (List.cons_ne_nil _ _) (by rwa [List.getLast?_cons_of_ne_nil nonempty])
        spelled, intercalate_slash_append (by simpa using empty)]
      simp

/-! ## Normal forms -/

theorem isNormal_of_normalize (normal : path.normalize = path) : IsNormal path.components.reverse := by
  have isNormal := path.isNormal_components
  rw [← List.reverse_reverse (path.components.foldl addNormal []), ← normalComponents,
    ← components_normalize, normal] at isNormal
  exact isNormal

theorem IsNormal.normalize_ofComponents (isNormal : IsNormal normal) :
    (ofComponents normal.reverse).normalize = ofComponents normal.reverse := by
  rw [normalize, isNormal.components_ofComponents, normalComponents, isNormal.foldl_reverse]

theorem IsNormal.of_cons {component : Component} (isNormal : IsNormal (component :: normal)) :
    IsNormal normal := by
  cases isNormal with
  | root => exact .empty
  | name _ below => exact below
  | up ups =>
      cases normal with
      | nil => exact .empty
      | cons first rest =>
          obtain rfl := ups first List.mem_cons_self
          exact .up fun component member => ups component (List.mem_cons_of_mem _ member)

/-- A name in a directory in normal form is in normal form. -/
theorem normalize_join_name (normal : dir.normalize = dir)
    (spelled : (Component.name label).IsSpelled) :
    (dir.join ⟨label⟩).normalize = dir.join ⟨label⟩ := by
  have isNormal := isNormal_of_normalize normal
  have whole : dir.join ⟨label⟩ = ofComponents (.name label :: dir.components.reverse).reverse := by
    rw [List.reverse_cons, isNormal.ofComponents_concat spelled, List.reverse_reverse]
    nth_rewrite 1 [← normal, ← ofComponents_normalize, normal]
    rfl
  rw [whole, (IsNormal.name spelled isNormal).normalize_ofComponents]

/-- A path in normal form is read in a path in normal form, as a component or as nothing. -/
theorem exists_join_of_normalize (normal : path.normalize = path) :
    ∃ (dir : Path) (body : List UInt8), dir.normalize = dir ∧ path = dir.join ⟨body⟩ ∧
      (body = [] ∧ path.label? = none ∨
        ∃ component : Component, component.IsSpelled ∧ component.label = body) := by
  have isNormal := isNormal_of_normalize normal
  have whole : path = ofComponents path.components := by
    nth_rewrite 1 [← normal, ← ofComponents_normalize, normal]
    rfl
  rw [← List.reverse_reverse path.components] at whole
  generalize path.components.reverse = reversed at isNormal whole
  cases isNormal with
  | empty => exact ⟨empty, [], rfl, whole, .inl ⟨rfl, by rw [whole]; rfl⟩⟩
  | root => exact ⟨root, [], by decide, whole, .inl ⟨rfl, by rw [whole]; decide⟩⟩
  | up ups =>
      have below := (IsNormal.up ups).of_cons
      rw [List.reverse_cons, below.ofComponents_concat Component.isSpelled_up] at whole
      exact ⟨_, _, below.normalize_ofComponents, whole, .inr ⟨.up, Component.isSpelled_up, rfl⟩⟩
  | name spelled below =>
      rw [List.reverse_cons, below.ofComponents_concat spelled] at whole
      exact ⟨_, _, below.normalize_ofComponents, whole, .inr ⟨_, spelled, rfl⟩⟩

/-- The bytes behind which the last component of a path in normal form stands. Every name in its place
gives a path in normal form. -/
theorem exists_front_of_normalize (normal : path.normalize = path) :
    ∃ front body, path = ⟨front ++ body⟩ ∧ Opens front ∧
      (body = [] ∧ path.label? = none ∨
        ∃ component : Component, component.IsSpelled ∧ component.label = body) ∧
      ∀ label, (Component.name label).IsSpelled → normalize ⟨front ++ label⟩ = ⟨front ++ label⟩ := by
  obtain ⟨dir, body, dirNormal, rfl, shape⟩ := exists_join_of_normalize normal
  obtain ⟨front, opens, joined⟩ := exists_front dir
  refine ⟨front, body, joined body ?_, opens, shape, fun label spelled => ?_⟩
  · rcases shape with ⟨rfl, -⟩ | ⟨component, spelled, rfl⟩
    · rfl
    · exact isAbsolute_label spelled
  · rw [← joined label (isAbsolute_label spelled), normalize_join_name dirNormal spelled]

/-! ## Endings -/

/-- What can stand at the end of every name: bytes that do not end a `.` or `..`. -/
structure IsEnding (bytes : List UInt8) : Prop where
  free : slash ∉ bytes
  long : 2 < bytes.length

theorem isSpelled_of_length {label : List UInt8} (free : slash ∉ label) (long : 2 < label.length) :
    (Component.name label).IsSpelled := by
  refine ⟨free, ?_⟩
  have other {segment : List UInt8} (short : segment.length ≤ 2) : label ≠ segment := by
    rintro rfl
    omega
  change Component.ofSegment? label = some (.name label)
  rw [Component.ofSegment?, if_neg (not_or.mpr ⟨other (by simp), other (by simp)⟩),
    if_neg (other (by simp))]

theorem IsEnding.isSpelled {ending : List UInt8} (isEnding : IsEnding ending) (free : slash ∉ body) :
    (Component.name (body ++ ending)).IsSpelled := by
  apply isSpelled_of_length
  · simp [free, isEnding.free]
  · have long := isEnding.long
    rw [List.length_append]
    omega

/-- A path in normal form stays so when its last component gets an ending. -/
theorem normalize_append (normal : path.normalize = path) {ending : List UInt8}
    (isEnding : IsEnding ending) :
    normalize ⟨path.bytes ++ ending⟩ = ⟨path.bytes ++ ending⟩ := by
  obtain ⟨front, body, rfl, -, shape, stays⟩ := exists_front_of_normalize normal
  have free : slash ∉ body := by
    rcases shape with ⟨rfl, -⟩ | ⟨component, spelled, rfl⟩
    · exact List.not_mem_nil
    · exact spelled.1
  simp only [List.append_assoc]
  exact stays _ (isEnding.isSpelled free)

/-- A path in normal form stays so when an ending takes the place of its extension. -/
theorem normalize_withoutExtension_append (normal : path.normalize = path)
    {before after ending : List UInt8} (named : path.label? = some label)
    (cut : cutName? label = some (before, after)) (isEnding : IsEnding ending) :
    normalize ⟨path.withoutExtension.bytes ++ ending⟩ = ⟨path.withoutExtension.bytes ++ ending⟩ := by
  obtain ⟨front, body, rfl, opens, shape, stays⟩ := exists_front_of_normalize normal
  rcases shape with ⟨-, unnamed⟩ | ⟨component, spelled, rfl⟩
  · rw [named] at unnamed
    contradiction
  · cases component with
    | root => exact absurd spelled.2 (by decide)
    | here => exact absurd spelled.2 (by decide)
    | up =>
        rw [Component.label, label?_of_opens_up opens] at named
        contradiction
    | name last =>
        rw [Component.label, label?_of_opens opens spelled, Option.some.injEq] at named
        subst last
        have ends : Ends ⟨front ++ label⟩ front label [] := ⟨by simp, opens, spelled, .nil⟩
        obtain ⟨kept, rest, shape⟩ := ends.exists_withoutExtension cut
        have free : slash ∉ kept := by
          rcases shape with rfl | ⟨-, rfl⟩
          · intro member
            rw [(cutName?_eq_some_iff.mp cut).1] at spelled
            exact spelled.1 (by simp [Component.label, member])
          · decide
        rw [Component.label, rest]
        simp only [List.append_assoc]
        exact stays _ (isEnding.isSpelled free)

end InlineScript.Path
