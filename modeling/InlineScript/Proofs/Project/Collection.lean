import Mathlib.Data.List.Nodup
import InlineScript.Disk.Tree
import InlineScript.Proofs.Path.Naming
import InlineScript.Project.Config

/-!
Which files below a directory are collected, in which order. The order in which a disk lists the
entries of its directories makes no difference.
-/

namespace InlineScript

/-! ## Listings -/

namespace Listing

/-- Names lead to a file. -/
inductive HasFile : Listing → List String → Prop where
  | here : HasFile .file []
  | inside {entries : List (String × Listing)} {name : String} {place : Listing}
      {names : List String} (entry : (name, place) ∈ entries) (file : HasFile place names) :
      HasFile (.dir entries) (name :: names)

/-- Every directory holds names of files, each once. -/
inductive IsTree : Listing → Prop where
  | file : IsTree .file
  | dir {entries : List (String × Listing)}
      (named : ∀ entry ∈ entries, (Component.ofName entry.1).IsSpelled)
      (distinct : (entries.map (·.1)).Nodup) (trees : ∀ entry ∈ entries, IsTree entry.2) :
      IsTree (.dir entries)

/-- What holds of no entries, and of more entries where it holds of those and of those inside, holds
of all. -/
@[elab_as_elim]
theorem induction_entries {motive : List (String × Listing) → Prop} (nil : motive [])
    (file : ∀ name rest, motive rest → motive ((name, .file) :: rest))
    (dir : ∀ name inner rest, motive inner → motive rest → motive ((name, .dir inner) :: rest)) :
    ∀ entries, motive entries
  | [] => nil
  | (name, .file) :: rest => file name rest (induction_entries nil file dir rest)
  | (name, .dir inner) :: rest =>
      dir name inner rest (induction_entries nil file dir inner) (induction_entries nil file dir rest)

variable {listing place : Listing} {entries : List (String × Listing)} {name : String}
  {names : List String}

theorem HasFile.exists_cons (file : HasFile (.dir entries) names) :
    ∃ name place rest, (name, place) ∈ entries ∧ HasFile place rest ∧ name :: rest = names := by
  cases file with
  | inside entry file => exact ⟨_, _, _, entry, file, rfl⟩

theorem hasFile_file_iff : HasFile .file names ↔ names = [] := by
  constructor
  · rintro ⟨⟩
    rfl
  · rintro rfl
    exact .here

theorem hasFile_cons_iff :
    HasFile (.dir ((name, place) :: entries)) names ↔
      (∃ rest, HasFile place rest ∧ name :: rest = names) ∨ HasFile (.dir entries) names := by
  constructor
  · intro file
    obtain ⟨first, found, rest, entry, below, rfl⟩ := file.exists_cons
    rcases List.mem_cons.mp entry with same | other
    · obtain ⟨rfl, rfl⟩ := Prod.mk.inj same
      exact .inl ⟨rest, below, rfl⟩
    · exact .inr (.inside other below)
  · rintro (⟨rest, below, rfl⟩ | file)
    · exact .inside List.mem_cons_self below
    · obtain ⟨first, found, rest, entry, below, rfl⟩ := file.exists_cons
      exact .inside (List.mem_cons_of_mem _ entry) below

theorem HasFile.isSpelled (file : listing.HasFile names) (tree : listing.IsTree) :
    ∀ name ∈ names, (Component.ofName name).IsSpelled := by
  induction file with
  | here => simp
  | inside entry _ ih =>
      cases tree with
      | dir named _ trees =>
          intro name member
          rcases List.mem_cons.mp member with rfl | later
          · exact named _ entry
          · exact ih (trees _ entry) name later

theorem IsTree.head (tree : IsTree (.dir ((name, place) :: entries))) : IsTree place := by
  cases tree with
  | dir _ _ trees => exact trees _ List.mem_cons_self

theorem IsTree.tail (tree : IsTree (.dir ((name, place) :: entries))) : IsTree (.dir entries) := by
  cases tree with
  | dir named distinct trees =>
      exact .dir (fun entry member => named entry (List.mem_cons_of_mem _ member))
        (List.nodup_cons.mp distinct).2
        (fun entry member => trees entry (List.mem_cons_of_mem _ member))

end Listing

namespace Project

open Glob (Pattern)

variable {disk other : Disk} {root file : Path} {entries others : List (String × Listing)}
  {names : List String} {wanted unwanted : List Pattern} {allowJs : Bool}

/-! ## Walking -/

/-- The walk finds the files that no skipped directory stands above. -/
theorem mem_filesOf (entries : List (String × Listing)) (names : List String) :
    names ∈ filesOf entries ↔
      (Listing.dir entries).HasFile names ∧ ∀ dir ∈ names.dropLast, isSkipped dir = false := by
  induction entries using Listing.induction_entries generalizing names with
  | nil =>
      rw [filesOf]
      constructor
      · intro member
        contradiction
      · rintro ⟨file, -⟩
        obtain ⟨name, place, rest, entry, _⟩ := file.exists_cons
        contradiction
  | file name rest ih =>
      rw [filesOf, List.mem_cons, ih, Listing.hasFile_cons_iff, or_and_right]
      apply or_congr_left
      constructor
      · rintro rfl
        exact ⟨⟨[], .here, rfl⟩, by simp⟩
      · rintro ⟨⟨below, file, rfl⟩, -⟩
        rw [Listing.hasFile_file_iff.mp file]
  | dir name inner rest inside ih =>
      rw [filesOf, List.mem_append, ih, Listing.hasFile_cons_iff, or_and_right]
      apply or_congr_left
      -- A file in a directory has a name of its own behind the directory's.
      have open_iff {below : List String} (file : (Listing.dir inner).HasFile below) :
          (∀ dir ∈ (name :: below).dropLast, isSkipped dir = false) ↔
            isSkipped name = false ∧ ∀ dir ∈ below.dropLast, isSkipped dir = false := by
        obtain ⟨first, _, later, _, _, rfl⟩ := file.exists_cons
        rw [List.dropLast_cons_cons, List.forall_mem_cons]
      constructor
      · intro member
        split at member
        next => contradiction
        next visible =>
          obtain ⟨below, found, rfl⟩ := List.mem_map.mp member
          obtain ⟨file, seen⟩ := (inside below).mp found
          exact ⟨⟨below, file, rfl⟩, (open_iff file).mpr ⟨by simpa using visible, seen⟩⟩
      · rintro ⟨⟨below, file, rfl⟩, seen⟩
        obtain ⟨visible, seen⟩ := (open_iff file).mp seen
        rw [if_neg (by simp [visible])]
        exact List.mem_map_of_mem ((inside below).mpr ⟨file, seen⟩)

theorem cons_not_mem_filesOf {name : String} {place : Listing}
    (tree : (Listing.dir ((name, place) :: entries)).IsTree) : name :: names ∉ filesOf entries := by
  intro member
  obtain ⟨first, found, _, entry, _, same⟩ := ((mem_filesOf entries _).mp member).1.exists_cons
  obtain ⟨rfl, -⟩ := List.cons.inj same
  cases tree with
  | dir _ distinct _ =>
      exact (List.nodup_cons.mp distinct).1 (List.mem_map.mpr ⟨_, entry, rfl⟩)

/-- The walk finds each file once. -/
theorem nodup_filesOf (entries : List (String × Listing)) (tree : (Listing.dir entries).IsTree) :
    (filesOf entries).Nodup := by
  induction entries using Listing.induction_entries with
  | nil =>
      rw [filesOf]
      exact List.nodup_nil
  | file name rest ih =>
      rw [filesOf, List.nodup_cons]
      exact ⟨cons_not_mem_filesOf tree, ih tree.tail⟩
  | dir name inner rest inside ih =>
      have below : ((filesOf inner).map (name :: ·)).Nodup := by
        apply List.Pairwise.map _ _ (inside tree.head)
        intro names others different same
        exact different (List.cons.inj same).2
      rw [filesOf, List.nodup_append]
      refine ⟨?_, ih tree.tail, ?_⟩
      · split
        · exact List.nodup_nil
        · exact below
      · intro names first others second same
        subst same
        split at first
        next => contradiction
        next =>
          obtain ⟨names, _, rfl⟩ := List.mem_map.mp first
          exact cons_not_mem_filesOf tree second

/-! ## Files that count -/

/-- Extensions of files that take part. -/
def scriptExtensions (allowJs : Bool) : List String :=
  ["ts", "tsx", "mts", "cts"] ++ if allowJs then ["js", "jsx", "mjs", "cjs"] else []

/-- Names lead to a script file, and through no directory that is not looked into. -/
structure IsSource (listing : Listing) (allowJs : Bool) (names : List String) : Prop where
  file : listing.HasFile names
  script : ∃ extension ∈ scriptExtensions allowJs, ∃ stem, stem ≠ "" ∧
    names.getLast? = some (stem ++ "." ++ extension)
  visible : ∀ dir ∈ names.dropLast, dir ≠ "node_modules" ∧ dir.toList.head? ≠ some '.'

/-- The way through the names matches a pattern that is asked for, and none that is turned away. -/
structure IsWanted (wanted unwanted : List Pattern) (names : List String) : Prop where
  asked : ∃ pattern ∈ wanted, pattern.matchesText ("/".intercalate names).toList = true
  kept : ∀ pattern ∈ unwanted, pattern.matchesText ("/".intercalate names).toList = false

theorem isSkipped_eq_false_iff {name : String} :
    isSkipped name = false ↔ name ≠ "node_modules" ∧ name.toList.head? ≠ some '.' := by
  simp [isSkipped, and_comm]

theorem isSelected_iff_isWanted :
    isSelected wanted unwanted names = true ↔ IsWanted wanted unwanted names := by
  simp only [isSelected, Pattern.accepts_eq_matchesText, Bool.and_eq_true, List.any_eq_true,
    Bool.not_eq_true', List.any_eq_false, Bool.not_eq_true]
  exact ⟨fun ⟨asked, kept⟩ => ⟨asked, kept⟩, fun ⟨asked, kept⟩ => ⟨asked, kept⟩⟩

theorem isScriptFile_iff {path : Path} :
    isScriptFile allowJs path = true ↔
      ∃ extension ∈ scriptExtensions allowJs, path.extension? = some extension := by
  rw [isScriptFile]
  cases path.extension? with
  | none => simp
  | some extension => cases allowJs <;> simp [scriptExtensions, or_assoc]

/-- No extension of a script has a dot in it. -/
theorem dot_not_mem_of_scriptExtensions {extension : String}
    (member : extension ∈ scriptExtensions allowJs) : '.' ∉ extension.toList := by
  have free : (scriptExtensions true).all fun text => !text.toList.contains '.' := by decide
  have among : extension ∈ scriptExtensions true := by
    cases allowJs with
    | true => exact member
    | false => exact List.mem_append_left _ (by simpa [scriptExtensions] using member)
  simpa using List.all_eq_true.mp free extension among

theorem isScriptFile_foldl_child (named : ∀ name ∈ names, (Component.ofName name).IsSpelled)
    (nonempty : names ≠ []) :
    isScriptFile allowJs (names.foldl Path.child root) = true ↔
      ∃ extension ∈ scriptExtensions allowJs, ∃ stem, stem ≠ "" ∧
        names.getLast? = some (stem ++ "." ++ extension) := by
  obtain ⟨last, found⟩ := List.getLast?_isSome.mpr nonempty |> Option.isSome_iff_exists.mp
  have label : (names.foldl Path.child root).label? = some (Text.Utf8.encode last.toList) := by
    rw [Path.label?, Path.components_foldl_child named, List.getLast?_append, List.getLast?_map,
      found]
    rfl
  rw [isScriptFile_iff]
  apply exists_congr
  intro extension
  apply and_congr_right
  intro member
  rw [Path.extension?_eq_some_iff label, found]
  apply exists_congr
  intro stem
  simp only [Option.some.injEq, dot_not_mem_of_scriptExtensions member, not_false_eq_true, and_true]

/-! ## Order -/

/-- Each path comes before those behind it. -/
def Increasing (files : List Path) : Prop :=
  files.Pairwise fun file later => Path.order file later = .lt

theorem eq_of_increasing {files others : List Path} (increasing : Increasing files)
    (increases : Increasing others) (same : ∀ file, file ∈ files ↔ file ∈ others) :
    files = others := by
  have irrefl (file : Path) : Path.order file file ≠ .lt := by
    have self : Path.order file file = .eq := Std.ReflCmp.compare_self
    rw [self]
    decide
  have distinct {paths : List Path} (increasing : Increasing paths) : paths.Nodup := by
    apply increasing.imp
    rintro file _ before rfl
    exact irrefl file before
  apply List.Perm.eq_of_pairwise _ increasing increases
    ((List.perm_ext_iff_of_nodup (distinct increasing) (distinct increases)).mpr same)
  intro file other _ _ before after
  exact absurd (Std.TransCmp.lt_trans before after) (irrefl file)

theorem increasing_sort {files : List Path} (distinct : files.Nodup)
    (normal : ∀ file ∈ files, file.normalize = file) : Increasing (Path.sort files) := by
  have sorted : (Path.sort files).Pairwise fun file later => (Path.order file later).isLE = true := by
    apply List.pairwise_mergeSort
    · intro first second third
      exact Std.TransCmp.isLE_trans
    · intro first second
      have swapped : Path.order second first = (Path.order first second).swap :=
        Std.OrientedCmp.eq_swap
      rw [swapped]
      cases Path.order first second <;> rfl
  have perm : (Path.sort files).Perm files := List.mergeSort_perm _ _
  refine (sorted.and (perm.nodup_iff.mpr distinct)).imp_of_mem ?_
  intro file later member follows ⟨notAfter, different⟩
  have apart : Path.order file later ≠ .eq := by
    rw [← normal file (perm.mem_iff.mp member), ← normal later (perm.mem_iff.mp follows), Ne,
      Path.order_normalize_eq_iff, normal file (perm.mem_iff.mp member),
      normal later (perm.mem_iff.mp follows)]
    exact different
  cases compared : Path.order file later <;> simp_all

theorem normalize_foldl_child_inj {others : List String}
    (named : ∀ name ∈ names, (Component.ofName name).IsSpelled)
    (spelled : ∀ name ∈ others, (Component.ofName name).IsSpelled)
    (same : (names.foldl Path.child root).normalize = (others.foldl Path.child root).normalize) :
    names = others := by
  have components := congrArg Path.components same
  rw [Path.components_normalize, Path.components_normalize, Path.components_foldl_child named,
    Path.components_foldl_child spelled, Path.normalComponents_append_names,
    Path.normalComponents_append_names, List.append_cancel_left_eq] at components
  refine (List.map_inj_right ?_).mp components
  intro name other equal
  exact String.toList_injective (Text.Utf8.encode_injective (Component.name.inj equal))

/-- The pattern for all files stands for every text. -/
theorem matchesText_everything (text : List Char) :
    Pattern.matchesText Config.everything text = true := by
  -- The stars take all up to the last slash, and then the rest.
  have run : Pattern.matchesText [.anySequence] text = true ∨
      Pattern.afterSlash (Pattern.matchesText [.anySequence]) text = true := by
    induction text with
    | nil => exact .inl rfl
    | cons c rest ih =>
        rcases ih with whole | later
        · by_cases divides : c = '/'
          · exact .inr (by simp [Pattern.afterSlash, divides, whole])
          · exact .inl (by simpa [Pattern.matchesText, Pattern.afterRun, divides] using whole)
        · exact .inr (by simp [Pattern.afterSlash, later])
  simpa [Config.everything, Pattern.matchesText] using run

/-! ## Collecting -/

theorem increasing_collectFiles (listed : disk.listing root = some (.dir entries))
    (tree : (Listing.dir entries).IsTree) :
    Increasing (collectFiles disk root wanted unwanted allowJs) := by
  rw [collectFiles, listed]
  apply increasing_sort
  · refine List.Nodup.map_on ?_ ((nodup_filesOf entries tree).filter _)
    intro names member others found same
    obtain ⟨file, -⟩ := (mem_filesOf entries names).mp (List.mem_filter.mp member).1
    obtain ⟨other, -⟩ := (mem_filesOf entries others).mp (List.mem_filter.mp found).1
    exact normalize_foldl_child_inj (file.isSpelled tree) (other.isSpelled tree) same
  · intro file member
    obtain ⟨names, -, rfl⟩ := List.mem_map.mp member
    exact Path.normalize_normalize _

theorem mem_collectFiles_iff (listed : disk.listing root = some (.dir entries))
    (tree : (Listing.dir entries).IsTree) :
    file ∈ collectFiles disk root wanted unwanted allowJs ↔
      ∃ names, IsSource (.dir entries) allowJs names ∧ IsWanted wanted unwanted names ∧
        (names.foldl Path.child root).normalize = file := by
  have found (names : List String) :
      (names ∈ filesOf entries ∧ isScriptFile allowJs (names.foldl Path.child root) = true) ↔
        IsSource (.dir entries) allowJs names := by
    rw [mem_filesOf]
    constructor
    · intro ⟨⟨file, seen⟩, script⟩
      obtain ⟨_, _, _, _, _, rfl⟩ := file.exists_cons
      exact ⟨file, (isScriptFile_foldl_child (file.isSpelled tree) (by simp)).mp script,
        fun dir member => isSkipped_eq_false_iff.mp (seen dir member)⟩
    · intro ⟨file, script, visible⟩
      obtain ⟨_, _, _, _, _, rfl⟩ := file.exists_cons
      exact ⟨⟨file, fun dir member => isSkipped_eq_false_iff.mpr (visible dir member)⟩,
        (isScriptFile_foldl_child (file.isSpelled tree) (by simp)).mpr script⟩
  rw [collectFiles, listed]
  simp only [Path.sort, List.mem_mergeSort, List.mem_map, List.mem_filter, Bool.and_eq_true,
    filesBelow, isSelected_iff_isWanted]
  apply exists_congr
  intro names
  rw [← and_assoc, found, and_assoc]

/-- The files collected below a directory are those that count and are asked for, in increasing
order, however the disk lists them; by default all that count are. -/
theorem collectFiles_exact (listed : disk.listing root = some (.dir entries))
    (tree : (Listing.dir entries).IsTree) :
    Increasing (collectFiles disk root wanted unwanted allowJs) ∧
      (∀ file, file ∈ collectFiles disk root wanted unwanted allowJs ↔
        ∃ names, IsSource (.dir entries) allowJs names ∧ IsWanted wanted unwanted names ∧
          (names.foldl Path.child root).normalize = file) ∧
      (∀ (other : Disk) (others : List (String × Listing)),
        other.listing root = some (.dir others) → (Listing.dir others).IsTree →
        (∀ names, (Listing.dir others).HasFile names ↔ (Listing.dir entries).HasFile names) →
        collectFiles other root wanted unwanted allowJs =
          collectFiles disk root wanted unwanted allowJs) ∧
      ∀ file, file ∈ (Config.defaults disk root).fileNames ↔
        ∃ names, IsSource (.dir entries) true names ∧
          (names.foldl Path.child root).normalize = file := by
  refine ⟨increasing_collectFiles listed tree, fun file => mem_collectFiles_iff listed tree, ?_, ?_⟩
  · intro other others relisted retree same
    apply eq_of_increasing (increasing_collectFiles relisted retree)
      (increasing_collectFiles listed tree)
    intro file
    have source (names : List String) :
        IsSource (.dir others) allowJs names ↔ IsSource (.dir entries) allowJs names :=
      ⟨fun ⟨file, script, visible⟩ => ⟨(same names).mp file, script, visible⟩,
        fun ⟨file, script, visible⟩ => ⟨(same names).mpr file, script, visible⟩⟩
    simp only [mem_collectFiles_iff relisted retree, mem_collectFiles_iff listed tree, source]
  · intro file
    have wanted (names : List String) : IsWanted [Config.everything] [] names :=
      ⟨⟨_, List.mem_singleton_self _, matchesText_everything _⟩, by simp⟩
    rw [Config.defaults, mem_collectFiles_iff listed tree]
    simp only [wanted, true_and]

private def hiddenEntries : List (String × Listing) :=
  [("src", .dir [(".b.ts", .file), ("a.js", .file), ("node_modules", .file)]),
    (".git", .dir [("c.ts", .file)])]

private def hiddenDisk : Disk :=
  FileTree.disk
    (.dir [(".p", .dir
      [("src", .dir [(".b.ts", .file (some "")), ("a.js", .file (some "")),
        ("node_modules", .file (some ""))]),
        (".git", .dir [("c.ts", .file (some ""))])])])
    Path.root

theorem collectFiles_exact_hidden :
    hiddenDisk.listing (.ofText "/.p") = some (.dir hiddenEntries) ∧
      (Listing.dir hiddenEntries).IsTree ∧
      Path.ofText "/.p/src/.b.ts" ∈
        collectFiles hiddenDisk (.ofText "/.p") [[.anyDirectories, .anySequence]] [] false := by
  have tree : (Listing.dir hiddenEntries).IsTree := by
    refine .dir ?_ (by decide) ?_
    · simp only [hiddenEntries, List.forall_mem_cons]
      exact ⟨by decide, by decide, by simp⟩
    · simp only [hiddenEntries, List.forall_mem_cons]
      refine ⟨.dir ?_ (by decide) ?_, .dir ?_ (by decide) ?_, by simp⟩
      all_goals simp only [List.forall_mem_cons]
      · exact ⟨by decide, by decide, by decide, by simp⟩
      · exact ⟨.file, .file, .file, by simp⟩
      · exact ⟨by decide, by simp⟩
      · exact ⟨.file, by simp⟩
  have listed : hiddenDisk.listing (.ofText "/.p") = some (.dir hiddenEntries) := by
    rfl
  refine ⟨listed, tree, ((collectFiles_exact listed tree).2.1 _).mpr ⟨["src", ".b.ts"], ?_, ?_, ?_⟩⟩
  · refine ⟨.inside List.mem_cons_self (.inside List.mem_cons_self .here),
      ⟨"ts", by decide, ".b", by decide, by decide⟩, ?_⟩
    intro dir member
    obtain rfl := List.mem_singleton.mp member
    decide
  · exact ⟨⟨_, List.mem_singleton_self _, by decide⟩, by simp⟩
  · decide +kernel

end Project

end InlineScript
