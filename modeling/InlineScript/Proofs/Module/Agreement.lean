import Mathlib.Data.List.Find
import InlineScript.Module.Bridge
import InlineScript.Proofs.Path.Endings

/-!
What an import means depends on whether the paths that are tried for it are files and on the texts of
the package manifests among them, and on nothing else. For names that are looked up next to the
importing file, all paths that are tried are in normal form.
-/

namespace InlineScript.Module

/-! ## Paths that are tried -/

section

variable (options : CompilerOptions) (host : Host) (importer : Path) (name : String)

/-- The paths that are tried for a path as a file. -/
def fileTries (path : Path) : List Path :=
  (if isScriptName path then [path] else []) ++
    (if isUntypedName path then typedEndings.map path.withoutExtension.appendText else []) ++
    (endings options).map path.appendText

/-- The paths that are tried for a path as a file or a directory, the manifest first. -/
def placeTries (path : Path) : List Path :=
  path.child "package.json" :: fileTries options path ++
    ((packageFile? host path).toList ++ [path.child "index"]).flatMap (fileTries options)

/-- The paths that an import may mean as a file or a directory. -/
def places : List Path :=
  if isRelative name then
    [(importer.directory.child name).normalize]
  else
    (options.baseUrl.map fun base => (base.child name).normalize).toList ++
      match options.moduleResolution with
      | .classic => []
      | .node | .bundler => packagePaths name importer.directory

/-- The paths that an import may mean as a file only, in the directories above. -/
def filesAbove : List Path :=
  if isRelative name then
    []
  else
    match options.moduleResolution with
    | .classic => importer.directory.ancestors.map (·.child name)
    | .node | .bundler => []

/-- All paths that are tried for an import. -/
def tries : List Path :=
  (places options importer name).flatMap (placeTries options host) ++
    (filesAbove options importer name).flatMap (fileTries options)

end

variable {options : CompilerOptions} {host other : Host} {importer path tried : Path} {name : String}

/-! ## Normal forms among them -/

/-- The untyped names: their extensions are among four. -/
theorem exists_of_isUntypedName (untyped : isUntypedName path = true) :
    ∃ label stem extension, path.label? = some label ∧
      Path.cutName? label = some (stem, Text.Utf8.encode extension) := by
  unfold isUntypedName at untyped
  split at untyped
  next extension found =>
    obtain ⟨label, stem, named, cut⟩ := Path.extension?_eq_some.mp found
    exact ⟨label, stem, _, named, cut⟩
  next => contradiction

theorem mem_of_mem_endings {ending : String} (member : ending ∈ endings options) :
    ending ∈ typedEndings ++ [".js", ".jsx"] := by
  rw [endings] at member
  split at member
  · exact member
  · exact List.mem_append_left _ (by simpa using member)

theorem isEnding_of_mem {ending : String} (member : ending ∈ typedEndings ++ [".js", ".jsx"]) :
    Path.IsEnding (Text.Utf8.encode ending.toList) := by
  have all : (typedEndings ++ [".js", ".jsx"]).all (fun text =>
      !(Text.Utf8.encode text.toList).contains Component.slash &&
        2 < (Text.Utf8.encode text.toList).length) = true := by decide
  obtain ⟨free, long⟩ : Component.slash ∉ Text.Utf8.encode ending.toList ∧
      2 < (Text.Utf8.encode ending.toList).length := by
    simpa using List.all_eq_true.mp all ending member
  exact ⟨free, long⟩

theorem normalize_of_mem_fileTries (normal : path.normalize = path)
    (member : tried ∈ fileTries options path) : tried.normalize = tried := by
  simp only [fileTries, List.mem_append] at member
  rcases member with (itself | instead) | ended
  · split at itself
    · rw [List.mem_singleton.mp itself, normal]
    · contradiction
  · split at instead
    · rename_i untyped
      obtain ⟨ending, listed, rfl⟩ := List.mem_map.mp instead
      obtain ⟨label, stem, extension, named, cut⟩ := exists_of_isUntypedName untyped
      exact Path.normalize_withoutExtension_append normal named cut
        (isEnding_of_mem (List.mem_append_left _ listed))
    · contradiction
  · obtain ⟨ending, listed, rfl⟩ := List.mem_map.mp ended
    exact Path.normalize_append normal (isEnding_of_mem (mem_of_mem_endings listed))

theorem exists_normalize_of_packageFile? {entry : Path} (found : packageFile? host path = some entry) :
    ∃ named : Path, named.normalize = entry := by
  obtain ⟨_, _, found⟩ := Option.bind_eq_some_iff.mp found
  obtain ⟨_, _, found⟩ := Option.bind_eq_some_iff.mp found
  obtain ⟨_, _, found⟩ := Option.bind_eq_some_iff.mp found
  exact ⟨_, Option.some.inj found⟩

theorem isSpelled_manifest :
    (Component.name (Text.Utf8.encode "package.json".toList)).IsSpelled := by
  constructor <;> decide

theorem label?_child_manifest (dir : Path) :
    (dir.child "package.json").label? = some (Text.Utf8.encode "package.json".toList) :=
  Path.label?_eq_some_iff_getLast?.mpr (Path.getLast?_components_join dir isSpelled_manifest)

theorem normalize_of_mem_placeTries (normal : path.normalize = path)
    (member : tried ∈ placeTries options host path) : tried.normalize = tried := by
  have index : (Component.name (Text.Utf8.encode "index".toList)).IsSpelled := by
    constructor <;> decide
  simp only [placeTries, List.mem_append, List.mem_cons, List.mem_flatMap, Option.mem_toList,
    List.not_mem_nil, or_false] at member
  rcases member with (rfl | file) | ⟨entry, named | rfl, file⟩
  · exact Path.normalize_join_name normal isSpelled_manifest
  · exact normalize_of_mem_fileTries normal file
  · obtain ⟨given, rfl⟩ := exists_normalize_of_packageFile? named
    exact normalize_of_mem_fileTries (Path.normalize_normalize given) file
  · exact normalize_of_mem_fileTries (Path.normalize_join_name normal index) file

theorem normalize_of_mem_tries (relative : isRelative name = true)
    (member : tried ∈ tries options host importer name) : tried.normalize = tried := by
  simp only [tries, places, filesAbove, relative, if_true, List.flatMap_nil, List.append_nil,
    List.flatMap_singleton] at member
  exact normalize_of_mem_placeTries (Path.normalize_normalize _) member

/-! ## Hosts that agree on them -/

theorem findSome?_congr {α β : Type} {find look : α → Option β} {list : List α}
    (alike : ∀ element ∈ list, find element = look element) :
    list.findSome? find = list.findSome? look := by
  induction list with
  | nil => rfl
  | cons first rest ih =>
      rw [List.findSome?_cons, List.findSome?_cons, alike first List.mem_cons_self,
        ih fun element member => alike element (List.mem_cons_of_mem _ member)]

theorem asFile?_congr
    (files : ∀ tried ∈ fileTries options path, host.fileExists tried = other.fileExists tried)
    (isExternal : Bool) :
    asFile? options host isExternal path = asFile? options other isExternal path := by
  have typed : typedInstead? host path = typedInstead? other path := by
    unfold typedInstead?
    split
    · rename_i untyped
      apply List.find?_congr
      intro tried member
      exact files tried (by simp [fileTries, untyped, member])
    · rfl
  have ended : (((endings options).map path.appendText).findSome? fun candidate =>
      if host.fileExists candidate then ofFile? isExternal candidate else none) =
      ((endings options).map path.appendText).findSome? fun candidate =>
        if other.fileExists candidate then ofFile? isExternal candidate else none := by
    apply findSome?_congr
    intro tried member
    rw [files tried (by simp [fileTries, member])]
  have itself : (isScriptName path && host.fileExists path) =
      (isScriptName path && other.fileExists path) := by
    cases script : isScriptName path with
    | false => rfl
    | true => rw [files path (by simp [fileTries, script])]
  simp only [asFile?, itself, typed, ended]

theorem asFileOrDirectory?_congr
    (files : ∀ tried ∈ placeTries options host path, host.fileExists tried = other.fileExists tried)
    (manifest : host.fileText (path.child "package.json") = other.fileText (path.child "package.json"))
    (isExternal : Bool) :
    asFileOrDirectory? options host isExternal path =
      asFileOrDirectory? options other isExternal path := by
  have entry : packageFile? host path = packageFile? other path := by
    simp only [packageFile?, manifest]
  have entryFile : (packageFile? host path).bind (asFile? options host isExternal) =
      (packageFile? other path).bind (asFile? options other isExternal) := by
    rw [← entry]
    cases found : packageFile? host path with
    | none => rfl
    | some named =>
        exact asFile?_congr (fun tried member => files tried (by simp [placeTries, found, member]))
          isExternal
  have index : asFile? options host isExternal (path.child "index") =
      asFile? options other isExternal (path.child "index") :=
    asFile?_congr (fun tried member => files tried (by simp [placeTries, member])) isExternal
  have itself : asFile? options host isExternal path = asFile? options other isExternal path :=
    asFile?_congr (fun tried member => files tried (by simp [placeTries, member])) isExternal
  simp only [asFileOrDirectory?, asDirectory?, itself, index, entryFile]

/-- Hosts that agree on the paths that are tried for an import give it the same meaning. -/
theorem resolveWithMarkup?_congr
    (files : ∀ tried ∈ tries options host importer name, host.fileExists tried = other.fileExists tried)
    (manifests : ∀ place ∈ places options importer name,
      host.fileText (place.child "package.json") = other.fileText (place.child "package.json")) :
    resolveWithMarkup? options host importer name = resolveWithMarkup? options other importer name := by
  have inPlace {place : Path} (listed : place ∈ places options importer name) (isExternal : Bool) :
      asFileOrDirectory? options host isExternal place =
        asFileOrDirectory? options other isExternal place := by
    refine asFileOrDirectory?_congr (fun tried member => files tried ?_) (manifests place listed) _
    exact List.mem_append_left _ (List.mem_flatMap.mpr ⟨place, listed, member⟩)
  have above {path : Path} (listed : path ∈ filesAbove options importer name) (isExternal : Bool) :
      asFile? options host isExternal path = asFile? options other isExternal path := by
    refine asFile?_congr (fun tried member => files tried ?_) _
    exact List.mem_append_right _ (List.mem_flatMap.mpr ⟨path, listed, member⟩)
  have native : resolve? options host importer name = resolve? options other importer name := by
    simp only [resolve?]
    split
    · rename_i relative
      exact inPlace (by simp [places, relative]) false
    · rename_i bare
      have base : belowBase? options host name = belowBase? options other name := by
        unfold belowBase?
        cases based : options.baseUrl with
        | none => rfl
        | some base => exact inPlace (by simp [places, bare, based]) false
      rw [base]
      congr 1
      cases kind : options.moduleResolution with
      | classic =>
          apply findSome?_congr
          intro path member
          exact above (by simpa [filesAbove, bare, kind] using member) false
      | node =>
          apply findSome?_congr
          intro path member
          exact inPlace (by simp [places, bare, kind, member]) true
      | bundler =>
          apply findSome?_congr
          intro path member
          exact inPlace (by simp [places, bare, kind, member]) true
  simp only [resolveWithMarkup?, native]

end InlineScript.Module
