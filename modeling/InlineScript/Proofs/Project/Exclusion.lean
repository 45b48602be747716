import InlineScript.Proofs.Path.Relative
import InlineScript.Disk.Tree
import InlineScript.Project.Config

/-!
Which of the files that a project's entries find are turned away. Entries to exclude become patterns
in the directory of the configuration that declares them, and the patterns are matched with the ways
from the directory of the entries to include.
-/

namespace InlineScript.Project

open Glob (Pattern)

theorem eq_ok_of_toOption {α β : Type} {result : Except α β} {value : β}
    (succeeds : result.toOption = some value) : result = .ok value := by
  cases result with
  | error _ => cases succeeds
  | ok _ => cases succeeds; rfl

/-! ## Files that match -/

/-- One of the patterns stands for the way from a directory to a file, which has to be a text. -/
def MatchesFrom (dir : Path) (patterns : List Pattern) (file : Path) : Prop :=
  ∃ way : String, file.wayFrom? dir = some (Path.ofText way) ∧
    ∃ pattern ∈ patterns, pattern.accepts way.toList = true

/-- Names lead from a directory to a file that takes part by its extension. -/
def LeadsTo (disk : Disk) (dir : Path) (allowJs : Bool) (names : List String) (file : Path) : Prop :=
  ∃ listing ∈ disk.listing dir, names ∈ filesBelow listing ∧
    isScriptFile allowJs (names.foldl Path.child dir) = true ∧
    (names.foldl Path.child dir).normalize = file

/-- The names at and below a directory are names of files. -/
def HasFileNames (disk : Disk) (dir : Path) : Prop :=
  ∀ listing ∈ disk.listing dir, ∀ names ∈ filesBelow listing, ∀ name ∈ names,
    (Component.ofName name).IsSpelled

variable {disk : Disk} {source dir path file : Path} {patterns wanted unwanted : List Pattern}
  {names : List String} {allowJs : Bool} {layers : List Layer}

theorem matchesFrom_iff (way : String) (found : file.wayFrom? dir = some (Path.ofText way)) :
    MatchesFrom dir patterns file ↔ patterns.any (·.accepts way.toList) = true := by
  rw [List.any_eq_true]
  constructor
  · intro ⟨other, same, pattern⟩
    have bytes : Text.Utf8.encode way.toList = Text.Utf8.encode other.toList := by
      rw [found, Option.some.injEq, Path.ofText, Path.ofText, Path.mk.injEq] at same
      exact same
    rw [Text.Utf8.encode_injective bytes]
    exact pattern
  · intro pattern
    exact ⟨way, found, pattern⟩

theorem isSelected_iff (named : ∀ name ∈ names, (Component.ofName name).IsSpelled) :
    isSelected wanted unwanted names = true ↔
      MatchesFrom dir wanted (names.foldl Path.child dir).normalize ∧
        ¬ MatchesFrom dir unwanted (names.foldl Path.child dir).normalize := by
  have way : (names.foldl Path.child dir).normalize.wayFrom? dir =
      some (Path.ofText ("/".intercalate names)) := Path.wayFrom?_foldl_child named
  rw [matchesFrom_iff _ way, matchesFrom_iff _ way, isSelected, Bool.and_eq_true, Bool.not_eq_true',
    Bool.not_eq_true]

theorem mem_collectFiles (named : HasFileNames disk dir) :
    file ∈ collectFiles disk dir wanted unwanted allowJs ↔
      (∃ names, LeadsTo disk dir allowJs names file) ∧
        MatchesFrom dir wanted file ∧ ¬ MatchesFrom dir unwanted file := by
  rw [collectFiles]
  cases listed : disk.listing dir with
  | none => simp [LeadsTo, listed]
  | some listing =>
      simp only [Path.sort, List.mem_mergeSort, List.mem_map, List.mem_filter, Bool.and_eq_true]
      constructor
      · intro ⟨names, ⟨member, script, selected⟩, same⟩
        subst file
        exact ⟨⟨names, listing, listed, member, script, rfl⟩,
          (isSelected_iff (named listing listed names member)).mp selected⟩
      · intro ⟨⟨names, other, found, member, script, same⟩, matched⟩
        obtain rfl : listing = other := by simpa [listed] using found
        subst file
        exact ⟨names, ⟨member, script,
          (isSelected_iff (named listing listed names member)).mpr matched⟩, rfl⟩

/-! ## Entries of a chain -/

/-- A file that entries find. -/
def Finds (disk : Disk) (source : Path) (entries : Entries) (allowJs : Bool) (file : Path) : Prop :=
  (∃ names, LeadsTo disk entries.dir allowJs names file) ∧
    ∃ patterns, compile source entries.dir entries.texts = .ok patterns ∧
      MatchesFrom entries.dir patterns file

/-- The configuration of a chain whose entries to exclude count: the nearest one with any. -/
def excluding? (layers : List Layer) : Option Layer :=
  layers.find? (·.written.excluded.isSome)

/-- The way to a file matches an entry to exclude that counts. `origin` is where ways start. -/
def Excludes (source : Path) (layers : List Layer) (origin : Layer → Path) (file : Path) : Prop :=
  ∃ layer ∈ excluding? layers, ∃ texts ∈ layer.written.excluded,
    ∃ patterns, compile source layer.dir texts = .ok patterns ∧
      MatchesFrom (origin layer) patterns file

theorem excluded_ofChain (layers : List Layer) :
    (Declared.ofChain layers).excluded =
      (excluding? layers).bind fun layer =>
        layer.written.excluded.map fun texts => { dir := layer.dir, texts } := by
  induction layers with
  | nil => rfl
  | cons layer rest ih =>
      have step : (Declared.ofChain (layer :: rest)).excluded =
          (Declared.ofLayer layer).excluded.or (Declared.ofChain rest).excluded := rfl
      rw [step, ih]
      cases written : layer.written.excluded with
      | none => simp [Declared.ofLayer, excluding?, written]
      | some texts => simp [Declared.ofLayer, excluding?, written]

/-- The patterns of entries, none where there are no entries. -/
def compileAll (source : Path) : Option Entries → Except ConfigFault (List Pattern)
  | none => .ok []
  | some entries => compile source entries.dir entries.texts

theorem excludes_iff
    (compiled : compileAll source (Declared.ofChain layers).excluded = .ok unwanted) :
    Excludes source layers (fun _ => dir) file ↔ MatchesFrom dir unwanted file := by
  rw [excluded_ofChain] at compiled
  rw [Excludes]
  cases found : excluding? layers with
  | none =>
      obtain rfl : [] = unwanted := by simpa [found, compileAll] using compiled
      simp [MatchesFrom]
  | some layer =>
      have declares : layer.written.excluded.isSome = true := by
        simpa using List.find?_some found
      obtain ⟨texts, written⟩ := Option.isSome_iff_exists.mp declares
      have patterns : compile source layer.dir texts = .ok unwanted := by
        simpa [found, written, compileAll] using compiled
      simp [written, patterns]

theorem excludes_congr {origin other : Layer → Path}
    (same : ∀ layer ∈ excluding? layers, origin layer = other layer) :
    Excludes source layers origin file ↔ Excludes source layers other file := by
  apply exists_congr
  intro layer
  apply and_congr_right
  intro excluding
  rw [same layer excluding]

/-! ## Files of a configuration -/

namespace Config

variable {config : Config} {included : Entries}

theorem any_same_distinct (paths : List Path) (file : Path) :
    (distinct paths).any file.same = paths.any file.same := by
  let : BEq Path := ⟨Path.same⟩
  have : Std.LawfulBEqCmp Path.order := Path.lawful_same
  have members : (distinct paths).contains file = paths.contains file := by
    rw [distinct, Std.TreeSet.contains_toList, Std.TreeSet.contains_ofList]
  rw [List.contains_eq_any_beq, List.contains_eq_any_beq] at members
  exact members

theorem matchedFiles_of_included {root : Path} {declared : Declared}
    (includes : includedEntries root declared = some included) :
    matchedFiles disk source root declared =
      (compile source included.dir included.texts).bind fun wanted =>
        (compileAll source declared.excluded).bind fun unwanted =>
          .ok (collectFiles disk included.dir wanted unwanted declared.options.allowJs) := by
  rw [matchedFiles, includes]
  cases declared.excluded <;> rfl

theorem load_eq_ok_iff (chained : chain disk path = .ok layers)
    (includes : includedEntries (Layer.dirOf path) (Declared.ofChain layers) = some included) :
    load disk path = .ok config ↔
      ∃ wanted unwanted, compile path included.dir included.texts = .ok wanted ∧
        compileAll path (Declared.ofChain layers).excluded = .ok unwanted ∧
        config = {
          configPath := some path
          root := Layer.dirOf path
          options := (Declared.ofChain layers).options
          fileNames := distinct (listedFiles (Declared.ofChain layers) ++
            collectFiles disk included.dir wanted unwanted
              (Declared.ofChain layers).options.allowJs) } := by
  have unfolded : load disk path =
      (matchedFiles disk path (Layer.dirOf path) (Declared.ofChain layers)).bind fun matched =>
        .ok {
          configPath := some path
          root := Layer.dirOf path
          options := (Declared.ofChain layers).options
          fileNames := distinct (listedFiles (Declared.ofChain layers) ++ matched) } := by
    rw [load, chained]
    rfl
  rw [unfolded, matchedFiles_of_included includes]
  cases compile path included.dir included.texts with
  | error fault => simp [Except.bind]
  | ok wanted =>
      cases compileAll path (Declared.ofChain layers).excluded with
      | error fault => simp [Except.bind]
      | ok unwanted => simp [Except.bind, eq_comm]

/-- A file in normal form is found among the collected ones by its components. -/
theorem any_same_collectFiles (named : HasFileNames disk dir)
    (reached : ∃ names, LeadsTo disk dir allowJs names file) :
    (collectFiles disk dir wanted unwanted allowJs).any file.same = true ↔
      MatchesFrom dir wanted file ∧ ¬ MatchesFrom dir unwanted file := by
  rw [List.any_eq_true]
  constructor
  · intro ⟨other, member, same⟩
    obtain ⟨otherReached, matched⟩ := (mem_collectFiles named).mp member
    obtain ⟨_, _, _, _, _, spelled⟩ := reached
    obtain ⟨_, _, _, _, _, otherSpelled⟩ := otherReached
    have equal : file = other := by
      rw [← spelled, ← otherSpelled] at same ⊢
      exact Path.order_normalize_eq_iff.mp (Path.order_eq_iff.mpr (beq_iff_eq.mp same))
    rw [equal]
    exact matched
  · intro matched
    exact ⟨file, (mem_collectFiles named).mpr ⟨reached, matched⟩, beq_self_eq_true _⟩

theorem lacks_iff (chained : chain disk path = .ok layers) (loaded : load disk path = .ok config)
    (includes : includedEntries (Layer.dirOf path) (Declared.ofChain layers) = some included)
    (named : HasFileNames disk included.dir)
    (found : Finds disk path included (Declared.ofChain layers).options.allowJs file) :
    config.fileNames.any file.same = false ↔
      (listedFiles (Declared.ofChain layers)).any file.same = false ∧
        Excludes path layers (fun _ => included.dir) file := by
  obtain ⟨wanted, unwanted, compiled, excluded, rfl⟩ := (load_eq_ok_iff chained includes).mp loaded
  obtain ⟨reached, patterns, samePatterns, matched⟩ := found
  obtain rfl : wanted = patterns := by simpa [compiled] using samePatterns
  have turnedAway : (collectFiles disk included.dir wanted unwanted
      (Declared.ofChain layers).options.allowJs).any file.same = false ↔
        MatchesFrom included.dir unwanted file := by
    rw [← Bool.not_eq_true, any_same_collectFiles named reached]
    simp [matched]
  rw [any_same_distinct, List.any_append, Bool.or_eq_false_iff, excludes_iff excluded, turnedAway]

/-- A file that is found is missing exactly if it is not listed by name and its way from the
directory of the entries to include matches an entry to exclude. Where that is the directory of the
configuration that excludes, the way from there decides. -/
theorem load_lacks_iff_excludes (chained : chain disk path = .ok layers)
    (loaded : load disk path = .ok config)
    (includes : includedEntries (Layer.dirOf path) (Declared.ofChain layers) = some included)
    (named : HasFileNames disk included.dir)
    (found : Finds disk path included (Declared.ofChain layers).options.allowJs file) :
    let missing := config.fileNames.any file.same = false
    let unlisted := (listedFiles (Declared.ofChain layers)).any file.same = false
    let fromIncluded := Excludes path layers (fun _ => included.dir) file
    let fromExcluded := Excludes path layers Layer.dir file
    (missing ↔ unlisted ∧ fromIncluded) ∧
      ((∀ layer ∈ excluding? layers, included.dir = layer.dir) →
        (missing ↔ unlisted ∧ fromExcluded)) := by
  intro missing unlisted fromIncluded fromExcluded
  have decided : missing ↔ unlisted ∧ fromIncluded :=
    lacks_iff chained loaded includes named found
  refine ⟨decided, fun same => ?_⟩
  have alike : fromIncluded ↔ fromExcluded := excludes_congr same
  rw [decided, alike]

/-! ## A project on two directories -/

private def projectPath : Path := Path.ofText "/app/tsconfig.json"

private def projectDir : Path := Path.ofText "/app"

private def generatedFile : Path := Path.ofText "/app/gen/x.ts"

private def mainFile : Path := Path.ofText "/app/main.ts"

/-- A project in `/app` that builds on a configuration in `/base`, and the texts of the two. -/
private def twoDirectories (own base : String) : Disk :=
  FileTree.disk
    (.dir [("app", .dir [("gen", .dir [("x.ts", .file (some ""))]), ("main.ts", .file (some "")),
        ("tsconfig.json", .file (some own))]),
      ("base", .dir [("t.json", .file (some base))])])
    Path.root

private def ownLayer (excluded : Option (List String)) : Layer where
  dir := projectDir
  written := { base := some "../base/t", excluded }

private def baseLayer (excluded : Option (List String)) : Layer where
  dir := Path.ofText "/base"
  written := { excluded }

private def everythingBelow : Entries := { dir := projectDir, texts := ["**/*"] }

private def generatedPattern : Pattern :=
  [.char 'g', .char 'e', .char 'n', .char '/', .anyDirectories, .anySequence]

private theorem listing_twoDirectories (own base : String) :
    (twoDirectories own base).listing projectDir = some (.dir [("gen", .dir [("x.ts", .file)]),
      ("main.ts", .file), ("tsconfig.json", .file)]) := by
  have listed : (twoDirectories own base).listing projectDir =
      some (FileTree.dir [("gen", .dir [("x.ts", .file (some ""))]), ("main.ts", .file (some "")),
        ("tsconfig.json", .file (some own))]).listing := by rfl
  rw [listed]
  simp only [FileTree.listing, FileTree.listings]

private theorem names_twoDirectories :
    filesBelow (.dir [("gen", .dir [("x.ts", .file)]), ("main.ts", .file), ("tsconfig.json", .file)]) =
      [["gen", "x.ts"], ["main.ts"], ["tsconfig.json"]] := by
  simp [filesBelow, filesOf, isSkipped]

private theorem hasFileNames_twoDirectories (own base : String) :
    HasFileNames (twoDirectories own base) projectDir := by
  intro listing listed
  rw [listing_twoDirectories, Option.mem_some] at listed
  rw [← listed, names_twoDirectories]
  decide +kernel

private theorem compile_entry {entry : String} {text : List Char} {pattern : Pattern}
    (stands : patternText dir entry = text) (parsed : Pattern.parse text = .ok pattern) :
    compile source dir [entry] = .ok [pattern] := by
  rw [compile, stands, parsed, compile]

private theorem compile_everythingBelow :
    compile projectPath projectDir ["**/*"] = .ok [everything] := by
  have stands : patternText projectDir "**/*" = "**/*".toList := by decide +kernel
  apply compile_entry stands
  simp [Pattern.parse, Pattern.parseFrom, Functor.map, Except.map, everything]

private theorem compile_generated (stands : patternText dir "gen" = "gen/**/*".toList) :
    compile projectPath dir ["gen"] = .ok [generatedPattern] := by
  apply compile_entry stands
  simp [Pattern.parse, Pattern.parseFrom, Functor.map, Except.map, generatedPattern]

private theorem finds_twoDirectories (own base : String) {names : List String}
    (member : names ∈ [["gen", "x.ts"], ["main.ts"], ["tsconfig.json"]])
    (script : ∀ allowJs, isScriptFile allowJs (names.foldl Path.child projectDir) = true)
    (accepted : everything.accepts ("/".intercalate names).toList = true) (allowJs : Bool) :
    Finds (twoDirectories own base) projectPath everythingBelow allowJs
      (names.foldl Path.child projectDir).normalize := by
  have listed := listing_twoDirectories own base
  rw [← names_twoDirectories] at member
  have named := hasFileNames_twoDirectories own base _ listed names member
  refine ⟨⟨names, _, listed, member, script allowJs, rfl⟩, [everything], compile_everythingBelow, ?_⟩
  apply (matchesFrom_iff _ (Path.wayFrom?_foldl_child named)).mpr
  simpa using accepted

private theorem finds_generated (own base : String) (allowJs : Bool) :
    Finds (twoDirectories own base) projectPath everythingBelow allowJs generatedFile :=
  finds_twoDirectories own base List.mem_cons_self (by decide +kernel)
    (by decide +kernel) allowJs

private theorem finds_main (own base : String) (allowJs : Bool) :
    Finds (twoDirectories own base) projectPath everythingBelow allowJs mainFile :=
  finds_twoDirectories own base (List.mem_cons_of_mem _ List.mem_cons_self) (by decide +kernel)
    (by decide +kernel) allowJs

private theorem load_twoDirectories {own base : String}
    (chained : chain (twoDirectories own base) projectPath = .ok layers)
    (includes : includedEntries (Layer.dirOf projectPath) (Declared.ofChain layers) =
      some everythingBelow)
    (excludes : (Declared.ofChain layers).excluded = some { dir, texts := ["gen"] })
    (stands : patternText dir "gen" = "gen/**/*".toList) :
    ∃ config, load (twoDirectories own base) projectPath = .ok config := by
  have compiled : compileAll projectPath (Declared.ofChain layers).excluded =
      .ok [generatedPattern] := by
    rw [excludes]
    exact compile_generated stands
  exact ⟨_, (load_eq_ok_iff chained includes).mpr
    ⟨[everything], [generatedPattern], compile_everythingBelow, compiled, rfl⟩⟩

private theorem excludes_generated_iff {layer : Layer} (origin : Layer → Path) (way : String)
    (excluding : excluding? layers = some layer) (written : layer.written.excluded = some ["gen"])
    (stands : patternText layer.dir "gen" = "gen/**/*".toList)
    (leads : file.wayFrom? (origin layer) = some (Path.ofText way)) :
    Excludes projectPath layers origin file ↔ generatedPattern.accepts way.toList = true := by
  simp [Excludes, excluding, written, compile_generated stands, matchesFrom_iff way leads]

private def ownLayers : List Layer := [ownLayer (some ["gen"]), baseLayer none]

private def baseLayers : List Layer := [ownLayer none, baseLayer (some ["gen"])]

theorem load_lacks_iff_excludes_ownEntry :
    let disk := twoDirectories
      "\x7b\"extends\": \"../base/t\", \"exclude\": [\"gen\"]\x7d" "\x7b\x7d"
    let declared := Declared.ofChain ownLayers
    chain disk projectPath = .ok ownLayers ∧
      includedEntries (Layer.dirOf projectPath) declared = some everythingBelow ∧
      HasFileNames disk projectDir ∧
      (∀ layer ∈ excluding? ownLayers, everythingBelow.dir = layer.dir) ∧
      Finds disk projectPath everythingBelow declared.options.allowJs generatedFile ∧
      Finds disk projectPath everythingBelow declared.options.allowJs mainFile ∧
      ∃ config, load disk projectPath = .ok config ∧
        config.fileNames.any generatedFile.same = false ∧ config.fileNames.any mainFile.same = true := by
  intro disk declared
  have chained : chain disk projectPath = .ok ownLayers := eq_ok_of_toOption (by decide +kernel)
  have includes : includedEntries (Layer.dirOf projectPath) declared = some everythingBelow := by
    decide +kernel
  have stands : patternText (ownLayer (some ["gen"])).dir "gen" = "gen/**/*".toList := by
    decide +kernel
  have excluding : excluding? ownLayers = some (ownLayer (some ["gen"])) := rfl
  have named : HasFileNames disk projectDir := hasFileNames_twoDirectories _ _
  obtain ⟨config, loaded⟩ := load_twoDirectories chained includes rfl stands
  have sameDir : ∀ layer ∈ excluding? ownLayers, everythingBelow.dir = layer.dir := by
    simp only [excluding, Option.mem_some, forall_eq']
    rfl
  have generatedRule :=
    (load_lacks_iff_excludes chained loaded includes named (finds_generated _ _ _)).2 sameDir
  have mainRule := (load_lacks_iff_excludes chained loaded includes named (finds_main _ _ _)).1
  refine ⟨chained, includes, named, sameDir, finds_generated _ _ _, finds_main _ _ _, config, loaded,
    ?_, ?_⟩
  · apply generatedRule.mpr
    have way : generatedFile.wayFrom? projectDir = some (Path.ofText "gen/x.ts") := by decide +kernel
    have accepted : generatedPattern.accepts "gen/x.ts".toList = true := by decide +kernel
    have excludes := (excludes_generated_iff Layer.dir _ excluding rfl stands way).mpr
    exact ⟨by decide +kernel, excludes accepted⟩
  · rw [← Bool.not_eq_false, mainRule]
    intro ⟨_, excluded⟩
    have way : mainFile.wayFrom? projectDir = some (Path.ofText "main.ts") := by decide +kernel
    have accepts := (excludes_generated_iff (fun _ => projectDir) _ excluding rfl stands way).mp
    exact absurd (accepts excluded) (by decide +kernel)

/-- `gen` next to the configuration in `/base` is excluded, and `gen` in `/app` is missing. -/
theorem load_lacks_without_excludes :
    let disk := twoDirectories "\x7b\"extends\": \"../base/t\"\x7d" "\x7b\"exclude\": [\"gen\"]\x7d"
    let declared := Declared.ofChain baseLayers
    chain disk projectPath = .ok baseLayers ∧
      includedEntries (Layer.dirOf projectPath) declared = some everythingBelow ∧
      Finds disk projectPath everythingBelow declared.options.allowJs generatedFile ∧
      ∃ config, load disk projectPath = .ok config ∧
        config.fileNames.any generatedFile.same = false ∧
        ¬ Excludes projectPath baseLayers Layer.dir generatedFile := by
  intro disk declared
  have chained : chain disk projectPath = .ok baseLayers := eq_ok_of_toOption (by decide +kernel)
  have includes : includedEntries (Layer.dirOf projectPath) declared = some everythingBelow := by
    decide +kernel
  have stands : patternText (baseLayer (some ["gen"])).dir "gen" = "gen/**/*".toList := by
    decide +kernel
  have excluding : excluding? baseLayers = some (baseLayer (some ["gen"])) := rfl
  have named : HasFileNames disk projectDir := hasFileNames_twoDirectories _ _
  obtain ⟨config, loaded⟩ := load_twoDirectories chained includes rfl stands
  refine ⟨chained, includes, finds_generated _ _ _, config, loaded, ?_, ?_⟩
  · apply (lacks_iff chained loaded includes named (finds_generated _ _ _)).mpr
    have way : generatedFile.wayFrom? projectDir = some (Path.ofText "gen/x.ts") := by decide +kernel
    have accepted : generatedPattern.accepts "gen/x.ts".toList = true := by decide +kernel
    have excludes := (excludes_generated_iff (fun _ => projectDir) _ excluding rfl stands way).mpr
    exact ⟨by decide +kernel, excludes accepted⟩
  · intro excluded
    have way : generatedFile.wayFrom? (baseLayer (some ["gen"])).dir =
        some (Path.ofText "../app/gen/x.ts") := by decide +kernel
    have accepts := (excludes_generated_iff Layer.dir _ excluding rfl stands way).mp
    exact absurd (accepts excluded) (by decide +kernel)

end Config

end InlineScript.Project
