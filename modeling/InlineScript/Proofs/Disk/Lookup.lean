import Mathlib.Data.List.Flatten
import InlineScript.Disk.Tree
import InlineScript.Proofs.Path.Canonical

/-!
Files of a tree by their paths. A path that leads to a file leads to the same file in its normal form.
The other way round this fails: what stands before a `..` has to be there, and a file has no slash
behind it.
-/

namespace InlineScript

open Component (slash)

namespace FileTree

variable {tree place found : FileTree} {above : List FileTree} {text : Option String}
  {before rest other components normal : List Component}

/-! ## Following components -/

theorem follow_name_eq_ok_iff {label : List UInt8} {entries : List (String × FileTree)} :
    follow (.dir entries) above (.name label :: rest) = .ok found ↔
      label.length ≤ nameLimit ∧ ∃ place, entry? label entries = some place ∧
        follow place (.dir entries :: above) rest = .ok found := by
  simp only [follow]
  split
  · rename_i long
    simp [Nat.not_le.mpr long]
  · rename_i short
    cases entry : entry? label entries with
    | none => simp
    | some place => simp [Nat.not_lt.mp short]

/-- What is followed in the same way from every place is so behind other components. -/
theorem follow_append
    (leads : ∀ place above, follow place above rest = .ok found → follow place above other = .ok found)
    (followed : follow place above (before ++ rest) = .ok found) :
    follow place above (before ++ other) = .ok found := by
  induction before generalizing place above with
  | nil => exact leads place above followed
  | cons first before ih =>
      cases place with
      | file text => cases followed
      | dir entries =>
          cases first with
          | root => exact ih followed
          | here => exact ih followed
          | up =>
              cases above with
              | nil => exact ih followed
              | cons parent above => exact ih followed
          | name label =>
              obtain ⟨short, place, entry, onward⟩ := follow_name_eq_ok_iff.mp followed
              exact follow_name_eq_ok_iff.mpr ⟨short, place, entry, ih onward⟩

theorem follow_here (followed : follow place above (.here :: rest) = .ok found) :
    follow place above rest = .ok found := by
  cases place with
  | file text => cases followed
  | dir entries => exact followed

theorem follow_name_up {label : List UInt8}
    (followed : follow place above (.name label :: .up :: rest) = .ok found) :
    follow place above rest = .ok found := by
  cases place with
  | file text => cases followed
  | dir entries =>
      obtain ⟨-, entered, -, back⟩ := follow_name_eq_ok_iff.mp followed
      cases entered with
      | file text => cases back
      | dir entries => exact back

theorem follow_root_up (followed : follow place [] (.root :: .up :: rest) = .ok found) :
    follow place [] (.root :: rest) = .ok found := by
  cases place with
  | file text => cases followed
  | dir entries => exact followed

/-- Adding a component to a normal list that begins at the root leads to the same place. -/
theorem follow_addNormal {component : Component} (isNormal : Path.IsNormal normal)
    (rooted : .root ∈ normal) (body : component ≠ .root)
    (followed : follow tree [] (normal.reverse ++ component :: rest) = .ok found) :
    follow tree [] ((Path.addNormal normal component).reverse ++ rest) = .ok found := by
  cases component with
  | root => contradiction
  | here => exact follow_append (fun _ _ => follow_here) followed
  | name label => simpa [Path.addNormal] using followed
  | up =>
      cases isNormal with
      | empty => cases rooted
      | root => exact follow_root_up followed
      | up ups =>
          rcases List.mem_cons.mp rooted with equal | member
          · cases equal
          · cases ups _ member
      | @name label below _ _ =>
          rw [List.reverse_cons, List.append_assoc] at followed
          exact follow_append (fun _ _ => follow_name_up) followed

theorem follow_foldl_addNormal (isNormal : Path.IsNormal normal) (rooted : .root ∈ normal)
    (body : ∀ component ∈ components, component ≠ .root ∧ (component = .here ∨ component.IsSpelled))
    (followed : follow tree [] (normal.reverse ++ components) = .ok found) :
    follow tree [] (components.foldl Path.addNormal normal).reverse = .ok found := by
  induction components generalizing normal with
  | nil => simpa using followed
  | cons first rest ih =>
      obtain ⟨notRoot, allowed⟩ := body first List.mem_cons_self
      refine ih (isNormal.addNormal (.inr allowed)) (Path.root_mem_addNormal_iff.mpr (.inl rooted))
        (fun component member => body component (List.mem_cons_of_mem _ member)) ?_
      exact follow_addNormal isNormal rooted notRoot followed

/-- A way that leads to a file ends with a name. -/
theorem exists_getLast?_of_follow (dirs : ∀ dir ∈ above, ∃ entries, dir = .dir entries)
    (nonempty : components ≠ []) (followed : follow place above components = .ok (.file text)) :
    ∃ label, components.getLast? = some (.name label) := by
  induction components generalizing place above with
  | nil => contradiction
  | cons first rest ih =>
      cases place with
      | file text => cases followed
      | dir entries =>
          -- Only a name leads from a directory to a file; what follows is the same for each component.
          have onward {next : FileTree} {higher : List FileTree}
              (dirs : ∀ dir ∈ higher, ∃ entries, dir = .dir entries)
              (leads : follow next higher rest = .ok (.file text))
              (enters : rest = [] → ∃ label, first = .name label) :
              ∃ label, (first :: rest).getLast? = some (.name label) := by
            by_cases last : rest = []
            · obtain ⟨label, rfl⟩ := enters last
              exact ⟨label, by rw [last]; rfl⟩
            · obtain ⟨label, ends⟩ := ih dirs last leads
              exact ⟨label, by rw [List.getLast?_cons, ends]; rfl⟩
          cases first with
          | root => exact onward dirs followed (fun last => by subst last; cases followed)
          | here => exact onward dirs followed (fun last => by subst last; cases followed)
          | up =>
              cases above with
              | nil => exact onward dirs followed (fun last => by subst last; cases followed)
              | cons parent above =>
                  refine onward (fun dir member => dirs dir (List.mem_cons_of_mem _ member)) followed ?_
                  intro last
                  obtain ⟨entries, rfl⟩ := dirs parent List.mem_cons_self
                  subst last
                  cases followed
          | name label =>
              obtain ⟨-, entered, -, leads⟩ := follow_name_eq_ok_iff.mp followed
              refine onward ?_ leads (fun _ => ⟨label, rfl⟩)
              intro dir member
              rcases List.mem_cons.mp member with rfl | higher
              · exact ⟨entries, rfl⟩
              · exact dirs dir higher

end FileTree

/-! ## Bytes of a normal form -/

namespace Path

variable {path : Path}

theorem addNormal_sublist (normal : List Component) (component : Component) :
    (addNormal normal component).Sublist (component :: normal) := by
  cases component with
  | root => exact .cons_cons _ (List.nil_sublist _)
  | here => exact List.sublist_cons_self _ _
  | name label => exact .refl _
  | up =>
      match normal with
      | [] => exact .refl _
      | .root :: below => exact List.sublist_cons_self _ _
      | .here :: below | .up :: below => exact .refl _
      | .name label :: below =>
          exact (List.sublist_cons_self _ _).trans (List.sublist_cons_self _ _)

theorem foldl_addNormal_sublist (components normal : List Component) :
    (components.foldl addNormal normal).Sublist (components.reverse ++ normal) := by
  induction components generalizing normal with
  | nil => exact .refl _
  | cons first rest ih =>
      have step := (addNormal_sublist normal first).append_left rest.reverse
      simpa using (ih _).trans step

theorem map_label_filterMap_ofSegment?_sublist (segments : List (List UInt8)) :
    ((segments.filterMap Component.ofSegment?).map Component.label).Sublist segments := by
  induction segments with
  | nil => exact .refl _
  | cons first rest ih =>
      cases read : Component.ofSegment? first with
      | none =>
          rw [List.filterMap_cons_none read]
          exact ih.cons first
      | some component =>
          rw [List.filterMap_cons_some read, List.map_cons, Component.label_of_ofSegment? read]
          exact ih.cons_cons first

/-- An absolute path is its segments behind the first one, each with a slash before it. -/
theorem exists_bytes_of_isAbsolute (absolute : path.isAbsolute = true) :
    ∃ first rest, path.segments = [] :: first :: rest ∧
      path.bytes = (first :: rest).flatMap (slash :: ·) := by
  obtain ⟨behind, bytes⟩ := List.head?_eq_some_iff.mp (eq_of_beq absolute)
  obtain ⟨first, rest, cut⟩ := List.exists_cons_of_ne_nil (List.splitOn_ne_nil slash behind)
  have segments : path.segments = [] :: first :: rest := by
    rw [Path.segments, bytes, ← cut]
    simp [List.splitOn_cons_eq_if_modifyHead]
  have whole : [slash].intercalate path.segments = path.bytes := List.intercalate_splitOn slash
  refine ⟨first, rest, segments, ?_⟩
  rw [← whole, segments, intercalate_slash_cons, List.nil_append]

/-- Taking the normal form of an absolute path only leaves bytes out. -/
theorem bytes_normalize_sublist (absolute : path.isAbsolute = true) :
    path.normalize.bytes.Sublist path.bytes := by
  obtain ⟨first, rest, segments, bytes⟩ := exists_bytes_of_isAbsolute absolute
  obtain ⟨_, labels, normal⟩ := path.exists_components_normalize
  rw [if_pos absolute] at normal
  have idle : Component.ofSegment? [] = none := rfl
  have given : path.components = .root :: (first :: rest).filterMap Component.ofSegment? := by
    rw [components, if_pos absolute, segments, List.filterMap_cons_none idle]
    rfl
  have kept : (labels.map Component.name).Sublist
      ((first :: rest).filterMap Component.ofSegment?) := by
    have shorter := (foldl_addNormal_sublist path.components []).reverse
    rw [List.append_nil, List.reverse_reverse, ← normalComponents, ← components_normalize, normal,
      given] at shorter
    exact shorter.of_cons_cons
  have labelled : (labels.map Component.name).map Component.label = labels := by
    simp [Function.comp_def, Component.label]
  have inSegments : labels.Sublist (first :: rest) := by
    have spelled := (kept.map Component.label).trans
      (map_label_filterMap_ofSegment?_sublist (first :: rest))
    rwa [labelled] at spelled
  have spelling : path.normalize.bytes = slash :: [slash].intercalate labels := by
    rw [← ofComponents_normalize, normal, List.singleton_append, ofComponents, labelled]
  rw [spelling, bytes]
  cases labels with
  | nil => exact .cons_cons slash (List.nil_sublist _)
  | cons label others =>
      rw [intercalate_slash_cons]
      exact inSegments.flatMap (slash :: ·)

end Path

/-! ## Files -/

namespace FileTree

variable {tree : FileTree} {cwd path : Path} {text : Option String}

theorem follow_normalize {found : FileTree} (absolute : path.isAbsolute = true)
    (followed : follow tree [] path.components = .ok found) :
    follow tree [] path.normalize.components = .ok found := by
  rw [Path.components_normalize, Path.normalComponents, Path.foldl_addNormal_components, Path.start,
    if_pos absolute]
  rw [Path.components, if_pos absolute] at followed
  refine follow_foldl_addNormal .root (List.mem_singleton_self _) ?_ followed
  intro component member
  obtain ⟨segment, inPath, read⟩ := List.mem_filterMap.mp member
  refine ⟨?_, .inr (Component.isSpelled_of_ofSegment? (Path.slash_not_mem_segment inPath) read)⟩
  rintro rfl
  exact Path.root_not_mem_body _ member

/-- What it takes to find a file. -/
theorem find_eq_file_iff :
    tree.find cwd path = .ok (.file text) ↔
      0 ∉ path.bytes ∧ path.bytes.length ≤ pathLimit ∧ path.bytes ≠ [] ∧
        asksForDirectory path = false ∧
        follow tree []
            (if path.isAbsolute then path.components else cwd.components ++ path.components) =
          .ok (.file text) := by
  simp only [find]
  split
  · rename_i ended
    simp_all
  · rename_i whole
    split
    · rename_i long
      simp [Nat.not_le.mpr long]
    · rename_i short
      split
      · rename_i empty
        simp_all
      · rename_i nonempty
        have bytes : path.bytes ≠ [] := by simpa using nonempty
        have free : 0 ∉ path.bytes := by simpa using whole
        simp only [free, Nat.not_lt.mp short, bytes, not_false_eq_true, ne_eq, true_and]
        split
        · rename_i found
          rw [found]
          split <;> simp_all
        · rename_i other
          constructor
          · intro found
            exact absurd found (other text)
          · intro found
            exact found.2

theorem components_ne_nil_of_isAbsolute (absolute : path.isAbsolute = true) :
    path.components ≠ [] :=
  List.ne_nil_of_mem (Path.root_mem_components_iff.mpr absolute)

/-- A path that leads to a file ends with a name. -/
theorem exists_label?_of_find (absolute : path.isAbsolute = true)
    (found : tree.find cwd path = .ok (.file text)) : ∃ label, path.label? = some label := by
  obtain ⟨-, -, -, -, followed⟩ := find_eq_file_iff.mp found
  rw [if_pos absolute] at followed
  obtain ⟨label, last⟩ := exists_getLast?_of_follow (by simp)
    (components_ne_nil_of_isAbsolute absolute) followed
  exact ⟨label, Path.label?_eq_some_iff_getLast?.mpr last⟩

theorem asksForDirectory_normalize {label : List UInt8} (named : path.normalize.label? = some label) :
    asksForDirectory path.normalize = false := by
  obtain ⟨front, ends⟩ := Path.exists_ends_normalize named
  obtain ⟨others, segments⟩ := ends.opens.exists_segments ends.spelled.1
  have busy : Path.isIdle label = false := by
    rw [← Bool.not_eq_true, Path.isIdle_iff]
    exact not_or.mpr ⟨ends.spelled.label_ne_nil, ends.spelled.label_ne_dot⟩
  have last : path.normalize.segments.getLast? = some label := by
    rw [Path.segments, ends.bytes, List.append_nil]
    exact (congrArg List.getLast? segments).trans List.getLast?_concat
  rw [asksForDirectory, last]
  exact busy

/-- A path that leads to a file leads there in its normal form. -/
theorem find_normalize (absolute : path.isAbsolute = true)
    (found : tree.find cwd path = .ok (.file text)) :
    tree.find cwd path.normalize = .ok (.file text) := by
  obtain ⟨free, short, -, -, followed⟩ := find_eq_file_iff.mp found
  have bytes := Path.bytes_normalize_sublist absolute
  have normalAbsolute : path.normalize.isAbsolute = true := by
    rw [Path.isAbsolute_normalize, absolute]
  obtain ⟨label, named⟩ := exists_label?_of_find absolute found
  refine find_eq_file_iff.mpr ⟨fun inside => free (bytes.subset inside),
    Nat.le_trans bytes.length_le short, ?_,
    asksForDirectory_normalize (Path.label?_normalize named), ?_⟩
  · intro empty
    simp [Path.isAbsolute, empty] at normalAbsolute
  · rw [if_pos absolute] at followed
    rw [if_pos normalAbsolute]
    exact follow_normalize absolute followed

end FileTree

/-! ## Disks -/

namespace Disk

variable {disk : Disk}

/-- A file with a text. -/
def IsReadable (disk : Disk) (path : Path) : Prop :=
  disk.isFile path = true ∧ ∃ text, disk.read path = .ok text

theorem isAbsolute_foldl_join {labels : List (List UInt8)} {start : Path}
    (relative : ∀ label ∈ labels, Path.isAbsolute ⟨label⟩ = false) :
    (labels.foldl (fun dir label => dir.join ⟨label⟩) start).isAbsolute = start.isAbsolute := by
  induction labels generalizing start with
  | nil => rfl
  | cons first rest ih =>
      rw [List.foldl_cons, ih fun label member => relative label (List.mem_cons_of_mem _ member),
        Path.isAbsolute_join (relative first List.mem_cons_self)]

theorem isAbsolute_absolute (fromRoot : disk.cwd.isAbsolute = true) (path : Path) :
    (disk.absolute path).isAbsolute = true := by
  simp only [absolute]
  generalize begun : (if path.isAbsolute then
    if (path.bytes.takeWhile (· == slash)).length = 2 then
      (⟨path.bytes.takeWhile (· == slash)⟩ : Path)
    else Path.root else disk.cwd) = start
  have started : start.isAbsolute = true := by
    rw [← begun]
    split
    · rename_i absolute
      split
      · obtain ⟨rest, bytes⟩ := List.head?_eq_some_iff.mp (eq_of_beq absolute)
        simp [Path.isAbsolute, bytes]
      · rfl
    · exact fromRoot
  have whole : ((((path.components.filter (fun c => c != .here && c != .root)).map
      Component.label).foldl (fun dir label => dir.join ⟨label⟩) start)).isAbsolute = true := by
    rw [isAbsolute_foldl_join, started]
    intro label member
    obtain ⟨component, kept, rfl⟩ := List.mem_map.mp member
    rcases Path.components_cases (List.mem_filter.mp kept).1 with rfl | rfl | spelled
    · rfl
    · rfl
    · exact Path.isAbsolute_label spelled
  split
  · have relative : Path.empty.isAbsolute = false := rfl
    rw [Path.isAbsolute_join relative, whole]
  · exact whole

end Disk

namespace FileTree

variable {tree : FileTree} {cwd path : Path} {text : String}

theorem isFile_disk_iff :
    (tree.disk cwd).isFile path = true ↔ ∃ text, tree.find cwd path = .ok (.file text) := by
  simp only [disk]
  split
  · rename_i text found
    simp [found]
  · rename_i other
    simpa using other

theorem read_disk_eq_ok_iff :
    (tree.disk cwd).read path = .ok text ↔ tree.find cwd path = .ok (.file (some text)) := by
  simp only [disk]
  split <;> simp_all

theorem text?_disk_of_find {text : Option String} (found : tree.find cwd path = .ok (.file text)) :
    (tree.disk cwd).text? path = text := by
  simp only [Disk.text?, disk, found]
  cases text <;> rfl

/-- A file has the same text in the normal form of its path. -/
theorem text?_disk_normalize (absolute : path.isAbsolute = true)
    (isFile : (tree.disk cwd).isFile path = true) :
    (tree.disk cwd).text? path.normalize = (tree.disk cwd).text? path := by
  obtain ⟨text, found⟩ := isFile_disk_iff.mp isFile
  rw [text?_disk_of_find found, text?_disk_of_find (find_normalize absolute found)]

end FileTree

end InlineScript
