import InlineScript.Proofs.Project.Chain
import InlineScript.Proofs.Project.Exclusion

/-!
What a chain of configurations declares. Each setting is decided by itself: the nearest configuration
that has it counts, and names in it are read in the directory of that configuration.
-/

namespace InlineScript.Project

/-! ## Settings -/

/-- One of the compiler options of a configuration. -/
def Layer.option? {α : Type} (setting : WrittenOptions → Option α) (layer : Layer) : Option α :=
  layer.written.options.bind setting

/-- The nearest configuration that has a setting, and its value there. Configurations stand nearest
first. -/
inductive Effective {α : Type} (setting : Layer → Option α) :
    List Layer → Option (Layer × α) → Prop where
  | nearest {nearer farther : List Layer} {layer : Layer} {value : α}
      (has : setting layer = some value) (first : ∀ other ∈ nearer, setting other = none) :
      Effective setting (nearer ++ layer :: farther) (some (layer, value))
  | unset {layers : List Layer} (absent : ∀ layer ∈ layers, setting layer = none) :
      Effective setting layers none

section

variable {α β : Type} {setting : Layer → Option α} {layer : Layer} {layers : List Layer}
  {found : Option (Layer × α)}

theorem Effective.cons (absent : setting layer = none) (effective : Effective setting layers found) :
    Effective setting (layer :: layers) found := by
  cases effective with
  | @nearest nearer farther other value has first =>
      exact @Effective.nearest α setting (layer :: nearer) farther other value has
        (List.forall_mem_cons.mpr ⟨absent, first⟩)
  | unset others => exact .unset (List.forall_mem_cons.mpr ⟨absent, others⟩)

/-- An entry that is laid over others is the one of the nearest configuration that has it. -/
theorem Declared.exists_effective (field : Declared → Option β) (value : Layer → α → β)
    (layers : List Layer) (unset : field {} = none)
    (overlay : ∀ nearer base, field (nearer.overlay base) = (field nearer).or (field base))
    (own : ∀ layer, field (ofLayer layer) = (setting layer).map (value layer)) :
    ∃ found, Effective setting layers found ∧
      field (ofChain layers) = found.map fun found => value found.1 found.2 := by
  induction layers with
  | nil => exact ⟨none, .unset (by simp), unset⟩
  | cons layer rest ih =>
      have step : field (ofChain (layer :: rest)) =
          ((setting layer).map (value layer)).or (field (ofChain rest)) := by
        rw [← own, ← overlay]
        rfl
      cases has : setting layer with
      | none =>
          obtain ⟨found, effective, same⟩ := ih
          exact ⟨found, effective.cons has, by rw [step, has, same]; rfl⟩
      | some own =>
          exact ⟨some (layer, own), @Effective.nearest α setting [] rest layer own has (by simp),
            by rw [step, has]; rfl⟩

theorem Layer.option?_eq {setting : WrittenOptions → Option α} (unset : setting {} = none)
    (layer : Layer) : setting (layer.written.options.getD {}) = layer.option? setting := by
  rw [Layer.option?]
  cases layer.written.options with
  | none => exact unset
  | some options => rfl

theorem Declared.exists_effective_option (field : Declared → Option α)
    (setting : WrittenOptions → Option α) (layers : List Layer) (unset : field {} = none)
    (unwritten : setting {} = none)
    (overlay : ∀ nearer base, field (nearer.overlay base) = (field nearer).or (field base))
    (own : ∀ layer, field (ofLayer layer) = setting (layer.written.options.getD {})) :
    ∃ found, Effective (Layer.option? setting) layers found ∧
      field (ofChain layers) = found.map fun found => found.2 := by
  apply exists_effective field (fun _ option => option) layers unset overlay
  intro layer
  rw [own, Layer.option?_eq unwritten, Option.map_id']

/-- Texts with the directory of the configuration that has them. -/
def entriesOf (found : Layer × List String) : Entries :=
  { dir := found.1.dir, texts := found.2 }

theorem Declared.exists_effective_entries (field : Declared → Option Entries)
    (setting : Written → Option (List String)) (layers : List Layer) (unset : field {} = none)
    (overlay : ∀ nearer base, field (nearer.overlay base) = (field nearer).or (field base))
    (own : ∀ layer, field (ofLayer layer) =
      (setting layer.written).map fun texts => { dir := layer.dir, texts }) :
    ∃ found, Effective (fun layer => setting layer.written) layers found ∧
      field (ofChain layers) = found.map entriesOf :=
  exists_effective field (fun layer texts => entriesOf (layer, texts)) layers unset overlay own

end

/-! ## Files -/

namespace Config

variable {disk : Disk} {path file root : Path} {config : Config} {layers : List Layer}
  {declared : Declared} {paths matched : List Path} {listed included : Option (Layer × List String)}

theorem mem_distinct (normal : ∀ path ∈ paths, path.normalize = path) :
    file ∈ distinct paths ↔ file ∈ paths :=
  Path.mem_toList_ofList_iff normal

theorem normalize_of_mem_collectFiles {dir : Path} {wanted unwanted : List Glob.Pattern}
    {allowJs : Bool} (member : file ∈ collectFiles disk dir wanted unwanted allowJs) :
    file.normalize = file := by
  rw [collectFiles] at member
  split at member
  · exact absurd member List.not_mem_nil
  · rw [Path.sort, List.mem_mergeSort] at member
    obtain ⟨names, -, rfl⟩ := List.mem_map.mp member
    exact Path.normalize_normalize _

theorem mem_listedFiles (files : declared.files = listed.map entriesOf) :
    file ∈ listedFiles declared ↔ ∃ layer names, listed = some (layer, names) ∧
      ∃ name ∈ names, (layer.dir.child name).normalize = file := by
  rw [listedFiles, files]
  cases listed with
  | none => simp
  | some found =>
      obtain ⟨layer, names⟩ := found
      simp only [Option.map_some, entriesOf, List.mem_map]
      constructor
      · intro named
        exact ⟨layer, names, rfl, named⟩
      · intro ⟨_, _, same, named⟩
        cases same
        exact named

/-- The directory and texts of the entries to include, given which files are listed and which entries
are to be included: all below the root if there are neither. -/
inductive Includes (root : Path) (listed included : Option (Layer × List String)) :
    Path → List String → Prop where
  | declared {layer : Layer} {texts : List String} (effective : included = some (layer, texts)) :
      Includes root listed included layer.dir texts
  | everything (unlisted : listed = none) (open_ : included = none) :
      Includes root listed included root ["**/*"]

theorem includes_iff {entries : Entries} (files : declared.files = listed.map entriesOf)
    (patterns : declared.included = included.map entriesOf) :
    includedEntries root declared = some entries ↔
      Includes root listed included entries.dir entries.texts := by
  rw [includedEntries, files, patterns]
  constructor
  · intro some
    cases included with
    | some found =>
        cases listed <;>
          (cases some; exact .declared rfl)
    | none =>
        cases listed with
        | none => cases some; exact .everything rfl rfl
        | some found => cases some
  · intro includes
    obtain ⟨dir, texts⟩ := entries
    cases includes with
    | declared effective => rw [effective]; cases listed <;> rfl
    | everything unlisted open_ => rw [unlisted, open_]; rfl

theorem mem_matchedFiles (found : matchedFiles disk path root declared = .ok matched) :
    file ∈ matched ↔ ∃ entries wanted unwanted, includedEntries root declared = some entries ∧
      compile path entries.dir entries.texts = .ok wanted ∧
      compileAll path declared.excluded = .ok unwanted ∧
      file ∈ collectFiles disk entries.dir wanted unwanted declared.options.allowJs := by
  cases includes : includedEntries root declared with
  | none =>
      obtain rfl : [] = matched := by simpa [matchedFiles, includes] using found
      simp
  | some entries =>
      rw [matchedFiles_of_included includes] at found
      cases compiled : compile path entries.dir entries.texts with
      | error fault => simp [compiled, Except.bind] at found
      | ok wanted =>
          cases excluded : compileAll path declared.excluded with
          | error fault => simp [compiled, excluded, Except.bind] at found
          | ok unwanted =>
              obtain rfl : collectFiles disk entries.dir wanted unwanted declared.options.allowJs =
                  matched := by simpa [compiled, excluded, Except.bind] using found
              simp [compiled]

theorem exists_of_load (loaded : load disk path = .ok config) :
    ∃ layers matched, chain disk path = .ok layers ∧
      matchedFiles disk path (Layer.dirOf path) (Declared.ofChain layers) = .ok matched ∧
      config = {
        configPath := some path
        root := Layer.dirOf path
        options := (Declared.ofChain layers).options
        fileNames := distinct (listedFiles (Declared.ofChain layers) ++ matched) } := by
  rw [load] at loaded
  cases chained : chain disk path with
  | error fault => simp [chained, bind, Except.bind] at loaded
  | ok layers =>
      cases found : matchedFiles disk path (Layer.dirOf path) (Declared.ofChain layers) with
      | error fault => simp [chained, found, bind, Except.bind] at loaded
      | ok matched =>
          refine ⟨layers, matched, rfl, found, ?_⟩
          simpa [chained, found, bind, Except.bind, pure, Except.pure, eq_comm] using loaded

/-! ## Configurations -/

/-- What a configuration takes from a chain. -/
structure Merges (disk : Disk) (path : Path) (layers : List Layer) (config : Config) : Prop where
  target : ∃ found, Effective (Layer.option? WrittenOptions.target) layers found ∧
    config.options.target =
      match found with
      | some (_, name) => (Target.ofName? name).getD .esNext
      | none => .esNext
  moduleResolution : ∃ named format,
    Effective (Layer.option? WrittenOptions.moduleResolution) layers named ∧
    Effective (Layer.option? WrittenOptions.module) layers format ∧
    config.options.moduleResolution =
      match named.bind fun found => ModuleResolution.ofName? found.2, format with
      | some resolution, _ => resolution
      | none, some (_, name) => ModuleResolution.ofModule name
      | none, none => .node
  allowJs : ∃ found, Effective (Layer.option? WrittenOptions.allowJs) layers found ∧
    config.options.allowJs =
      match found with
      | some (_, allowed) => allowed
      | none => true
  baseUrl : ∃ found, Effective (Layer.option? WrittenOptions.baseUrl) layers found ∧
    config.options.baseUrl = found.map fun (layer, name) => (layer.dir.child name).normalize
  fileNames : ∃ listed included excluded,
    Effective (fun layer => layer.written.files) layers listed ∧
    Effective (fun layer => layer.written.included) layers included ∧
    Effective (fun layer => layer.written.excluded) layers excluded ∧
    ∀ file, file ∈ config.fileNames ↔
      (∃ layer names, listed = some (layer, names) ∧
        ∃ name ∈ names, (layer.dir.child name).normalize = file) ∨
      ∃ dir texts wanted unwanted, Includes (Layer.dirOf path) listed included dir texts ∧
        compile path dir texts = .ok wanted ∧
        compileAll path (excluded.map entriesOf) = .ok unwanted ∧
        file ∈ collectFiles disk dir wanted unwanted config.options.allowJs

theorem merges_of_matchedFiles
    (found : matchedFiles disk path (Layer.dirOf path) (Declared.ofChain layers) = .ok matched) :
    Merges disk path layers {
      configPath := some path
      root := Layer.dirOf path
      options := (Declared.ofChain layers).options
      fileNames := distinct (listedFiles (Declared.ofChain layers) ++ matched) } where
  target := by
    obtain ⟨name, effective, same⟩ := Declared.exists_effective_option Declared.target
      WrittenOptions.target layers rfl rfl (fun _ _ => rfl) (fun _ => rfl)
    refine ⟨name, effective, ?_⟩
    simp only [Declared.options, same]
    cases name <;> rfl
  moduleResolution := by
    obtain ⟨named, namedEffective, sameName⟩ := Declared.exists_effective_option
      Declared.moduleResolution WrittenOptions.moduleResolution layers rfl rfl (fun _ _ => rfl)
      (fun _ => rfl)
    obtain ⟨format, formatEffective, sameFormat⟩ := Declared.exists_effective_option Declared.module
      WrittenOptions.module layers rfl rfl (fun _ _ => rfl) (fun _ => rfl)
    refine ⟨named, format, namedEffective, formatEffective, ?_⟩
    simp only [Declared.options, sameName, sameFormat]
    cases named with
    | none => cases format <;> rfl
    | some found =>
        cases known : ModuleResolution.ofName? found.2 <;> cases format <;> simp [known]
  allowJs := by
    obtain ⟨allowed, effective, same⟩ := Declared.exists_effective_option Declared.allowJs
      WrittenOptions.allowJs layers rfl rfl (fun _ _ => rfl) (fun _ => rfl)
    refine ⟨allowed, effective, ?_⟩
    simp only [Declared.options, same]
    cases allowed <;> rfl
  baseUrl := by
    apply Declared.exists_effective Declared.baseUrl
      (fun layer name => (layer.dir.child name).normalize) layers rfl (fun _ _ => rfl)
    intro layer
    rw [← Layer.option?_eq rfl]
    rfl
  fileNames := by
    obtain ⟨listed, listedEffective, files⟩ := Declared.exists_effective_entries Declared.files
      Written.files layers rfl (fun _ _ => rfl) (fun _ => rfl)
    obtain ⟨included, includedEffective, patterns⟩ := Declared.exists_effective_entries
      Declared.included Written.included layers rfl (fun _ _ => rfl) (fun _ => rfl)
    obtain ⟨excluded, excludedEffective, exclusions⟩ := Declared.exists_effective_entries
      Declared.excluded Written.excluded layers rfl (fun _ _ => rfl) (fun _ => rfl)
    refine ⟨listed, included, excluded, listedEffective, includedEffective, excludedEffective, ?_⟩
    have normal : ∀ path ∈ listedFiles (Declared.ofChain layers) ++ matched,
        path.normalize = path := by
      intro path member
      rcases List.mem_append.mp member with inListed | inMatched
      · obtain ⟨layer, names, -, name, -, rfl⟩ := (mem_listedFiles files).mp inListed
        exact Path.normalize_normalize _
      · obtain ⟨_, _, _, _, _, _, collected⟩ := (mem_matchedFiles found).mp inMatched
        exact normalize_of_mem_collectFiles collected
    intro file
    rw [mem_distinct normal, List.mem_append, mem_listedFiles files, mem_matchedFiles found, exclusions]
    apply or_congr_right
    constructor
    · intro ⟨entries, wanted, unwanted, includes, matched⟩
      exact ⟨entries.dir, entries.texts, wanted, unwanted,
        (includes_iff files patterns).mp includes, matched⟩
    · intro ⟨dir, texts, wanted, unwanted, includes, matched⟩
      exact ⟨{ dir, texts }, wanted, unwanted, (includes_iff files patterns).mpr includes, matched⟩

/-- Every setting of a configuration is the one of the nearest file in its chain that has it, and so
are the files it lists and the entries it includes. -/
theorem load_merges_nearest (loaded : load disk path = .ok config) :
    ∃ layers, chain disk path = .ok layers ∧ Layered disk path layers.reverse ∧
      Merges disk path layers config := by
  obtain ⟨layers, matched, chained, found, rfl⟩ := exists_of_load loaded
  have outcome : Outcome disk path 8 path (.ok layers.reverse) := by
    rw [← chainFrom_outcome_iff]
    exact congrArg (Except.map List.reverse) chained
  cases outcome with
  | whole layered => exact ⟨layers, chained, layered, merges_of_matchedFiles found⟩

/-- A configuration in `/app` that builds on one in `/base`. -/
private def twoTargets : Disk :=
  FileTree.disk
    (.dir [
      ("app", .dir [("tsconfig.json", .file (some
        "\x7b\"extends\":\"../base/t\",\"compilerOptions\":\x7b\"target\":\"es1\"\x7d\x7d"))]),
      ("base", .dir [("t.json", .file (some
        "\x7b\"files\":[\"a.ts\"],\"compilerOptions\":\x7b\"target\":\"es5\",\"baseUrl\":\".\"\x7d\x7d"))])])
    Path.root

/-- The unknown target is not replaced by the one farther away. -/
private def mergedConfig : Config where
  configPath := some (Path.ofText "/app/tsconfig.json")
  root := Path.ofText "/app"
  options := { target := .esNext, baseUrl := some (Path.ofText "/base") }
  fileNames := [Path.ofText "/base/a.ts"]

theorem load_merges_nearest_twoTargets :
    load twoTargets (Path.ofText "/app/tsconfig.json") = .ok mergedConfig ∧
      ∃ layers, chain twoTargets (Path.ofText "/app/tsconfig.json") = .ok layers ∧
        Layered twoTargets (Path.ofText "/app/tsconfig.json") layers.reverse ∧
        Merges twoTargets (Path.ofText "/app/tsconfig.json") layers mergedConfig := by
  have loaded : load twoTargets (Path.ofText "/app/tsconfig.json") = .ok mergedConfig :=
    eq_ok_of_toOption (by decide +kernel)
  exact ⟨loaded, load_merges_nearest loaded⟩

end Config

end InlineScript.Project
