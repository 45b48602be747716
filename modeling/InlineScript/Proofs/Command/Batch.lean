import InlineScript.Command.Run
import InlineScript.Proofs.Disk.Lookup
import InlineScript.Proofs.Document.Imports
import InlineScript.Proofs.Document.Script
import InlineScript.Proofs.Module.Agreement

/-!
Files that are checked together share a session. What a script in memory adds to the disk are other
spellings of its path: imports find it under each of them, where the disk may have no file. But for
this, each file is told what it is told when it is checked alone.
-/

namespace InlineScript

/-! ## Spellings -/

/-- Whether a path is another spelling of one of the given ones. -/
def Path.spells (paths : List Path) (path : Path) : Bool :=
  paths.any fun given => given.normalize == path.normalize

namespace Path

variable {paths : List Path} {path other : Path}

theorem spells_iff : spells paths path = true ↔ ∃ given ∈ paths, given.normalize = path.normalize := by
  simp [spells]

theorem spells_cons : spells (other :: paths) path = true ↔
    other.normalize = path.normalize ∨ spells paths path = true := by
  simp [spells]

theorem spells_congr (same : path.normalize = other.normalize) :
    spells paths path = spells paths other := by
  simp [spells, same]

end Path

namespace Disk

variable (disk : Disk)

/-- The files that imports can reach when nothing is in memory. -/
def moduleHost : Module.Host where
  fileExists := disk.isFile
  fileText := disk.text?

/-- The files that imports can reach when some are in memory: those of the disk, and all spellings of
those in memory. -/
def hostWith (paths : List Path) : Module.Host where
  fileExists path := Path.spells paths path || disk.isFile path
  fileText path := if Path.spells paths path then disk.text? path.normalize else disk.text? path

variable {disk}

theorem text?_of_read {path : Path} {text : String} (read : disk.read path = .ok text) :
    disk.text? path = some text := by
  rw [text?, read]
  rfl

end Disk

/-! ## Dialects -/

theorem Dialect.ofPath_congr {path other : Path} (same : path.label? = other.label?) :
    Dialect.ofPath path = Dialect.ofPath other := by
  simp only [Dialect.ofPath, Path.extension?, same]

/-- The manifest of a package is no markup. -/
theorem Dialect.ofPath_manifest (dir : Path) :
    Dialect.ofPath (dir.child "package.json").normalize = .unknown := by
  have extension : (dir.child "package.json").normalize.extension? = some "json" := by
    simp only [Path.extension?, Path.label?_normalize (Module.label?_child_manifest dir)]
    decide
  have lower : "json".toLower = "json" := by decide +kernel
  simp [Dialect.ofPath, extension, lower]

/-- The name of a file plays a part in what its script is only by its dialect. -/
theorem Document.ofHost_path {path other : Path} (same : Dialect.ofPath path = Dialect.ofPath other)
    (host : List Char) (version : Nat) :
    ofHost path host version = { ofHost other host version with path } := by
  unfold ofHost
  rw [same]
  split
  · split <;> rfl
  · rfl

/-! ## Scripts in memory -/

/-- The state of a file's script when it is looked at for the first time. -/
def Disk.snapshot (disk : Disk) (path : Path) : Snapshot :=
  let doc := Document.ofHost path.normalize ((disk.text? path.normalize).getD "").toList 1
  { text := doc.text, dialect := doc.dialect, version := doc.version }

theorem Disk.snapshot_congr {disk : Disk} {path other : Path}
    (same : path.normalize = other.normalize) :
    disk.snapshot path = disk.snapshot other := by
  simp only [snapshot, same]

/-- A file that has the same text and dialect in the normal form of its path. -/
structure Disk.Settles (disk : Disk) (path : Path) (text : String) : Prop where
  absolute : path.isAbsolute = true
  read : disk.read path = .ok text
  isFile : disk.isFile path.normalize = true
  normalText : disk.text? path.normalize = some text
  dialect : Dialect.ofPath path = Dialect.ofPath path.normalize

theorem Disk.Settles.snapshot_eq {disk : Disk} {path : Path} {text : String}
    (settles : disk.Settles path text) :
    disk.snapshot path =
      { text := (Document.ofHost path text.toList 1).text
        dialect := (Document.ofHost path text.toList 1).dialect
        version := 1 } := by
  rw [Document.ofHost_path settles.dialect, snapshot, settles.normalText, Option.getD_some,
    Document.version_ofHost]
  rfl

theorem FileTree.settles {tree : FileTree} {cwd path : Path} {text : String}
    (absolute : path.isAbsolute = true) (read : (tree.disk cwd).read path = .ok text) :
    (tree.disk cwd).Settles path text := by
  have found := read_disk_eq_ok_iff.mp read
  have normal := find_normalize absolute found
  obtain ⟨label, named⟩ := exists_label?_of_find absolute found
  refine ⟨absolute, read, isFile_disk_iff.mpr ⟨_, normal⟩, text?_disk_of_find normal, ?_⟩
  exact Dialect.ofPath_congr (by rw [named, Path.label?_normalize named])

/-- A table that has the scripts of the given files in memory, and no others. -/
structure Table.Tracks (disk : Disk) (paths : List Path) (table : Table) : Prop where
  snapshots : ∀ path, table.snapshot? path =
    if Path.spells paths path then some (disk.snapshot path) else none
  files : ∀ path ∈ paths, ∃ text, disk.Settles path text

namespace Table.Tracks

variable {disk : Disk} {paths : List Path} {path : Path} {table : Table} {text : String}

theorem ofProjectFiles (disk : Disk) (paths : List Path) : (ofProjectFiles paths).Tracks disk [] where
  snapshots _ := snapshot?_ofProjectFiles paths
  files _ member := nomatch member

/-- A file that is in memory already is there under each spelling of its path. -/
theorem cons_of_spells (tracks : table.Tracks disk paths) (settles : disk.Settles path text)
    (known : Path.spells paths path = true) : table.Tracks disk (path :: paths) where
  snapshots other := by
    have same : Path.spells (path :: paths) other = Path.spells paths other := by
      rw [Bool.eq_iff_iff, Path.spells_cons, or_iff_right_iff_imp]
      exact fun alike => Path.spells_congr alike ▸ known
    rw [tracks.snapshots, same]
  files := List.forall_mem_cons.mpr ⟨⟨text, settles⟩, tracks.files⟩

theorem put (tracks : table.Tracks disk paths) (settles : disk.Settles path text) :
    (table.put path (disk.snapshot path)).2.Tracks disk (path :: paths) where
  snapshots other := by
    rw [snapshot?_put, tracks.snapshots]
    by_cases alike : path.normalize = other.normalize
    · rw [if_pos alike, if_pos (Path.spells_cons.mpr (.inl alike)), Disk.snapshot_congr alike]
    · have same : Path.spells (path :: paths) other = Path.spells paths other := by
        rw [Bool.eq_iff_iff, Path.spells_cons, or_iff_right alike]
      rw [if_neg alike, same]
  files := List.forall_mem_cons.mpr ⟨⟨text, settles⟩, tracks.files⟩

theorem version_le (tracks : table.Tracks disk paths) (path : Path) : table.version path ≤ 1 := by
  unfold version
  rw [tracks.snapshots]
  split
  · rename_i found
    split at found
    · cases found
      exact Nat.le_of_eq Document.version_ofHost
    · contradiction
  · exact Nat.zero_le 1

/-- Imports find the files of such a table under all spellings of their paths. -/
theorem resolveWithMarkup?_eq (tracks : table.Tracks disk paths) (options : CompilerOptions)
    (importer : Path) :
    Module.resolveWithMarkup? options (table.moduleHost disk) importer =
      Module.resolveWithMarkup? options (disk.hostWith paths) importer := by
  funext name
  apply Module.resolveWithMarkup?_congr
  · intro path _
    simp only [moduleHost, fileExists, Disk.hostWith, isTracked_eq, tracks.snapshots]
    split <;> simp_all
  · intro place _
    simp only [moduleHost, fileText?, Disk.hostWith, tracks.snapshots]
    by_cases known : Path.spells paths (place.child "package.json") = true
    · obtain ⟨path, given, same⟩ := Path.spells_iff.mp known
      obtain ⟨text, settles⟩ := tracks.files path given
      have manifest := Dialect.ofPath_manifest place
      have script : Dialect.ofPath (place.child "package.json").normalize ≠ .markup := by
        rw [manifest]
        decide
      simp only [known, if_true, ← same, settles.normalText, Disk.snapshot]
      rw [same, Document.text_ofHost script, Option.getD_some, String.ofList_toList]
    · simp only [known, if_false, Bool.false_eq_true]

end Table.Tracks

/-! ## Sessions -/

namespace Manager

section

variable {E : Type} {maker : Engine E} {disk : Disk} {manager : Manager E}

theorem stored?_eq (maker : Engine E) (disk : Disk) (manager : Manager E) (doc : Document) :
    manager.stored? doc = (manager.activate maker disk).1.table.snapshot? doc.path := by
  unfold stored?
  cases found : manager.active with
  | none =>
      rw [activate_of_inactive found]
      exact (Table.snapshot?_ofProjectFiles _).symm
  | some active =>
      rw [activate_of_active found]
      rfl

/-- Syncing the document of a file leaves the configuration as it is and has the file in memory. -/
theorem sync_tracks {paths : List Path} {path : Path} {text : String}
    (tracks : (manager.activate maker disk).1.table.Tracks disk paths)
    (settles : disk.Settles path text) :
    ∃ active, (manager.sync maker disk (.ofHost path text.toList 1)).active = some active ∧
      active.config = (manager.activate maker disk).1.config ∧
      active.table.Tracks disk (path :: paths) := by
  generalize given : Document.ofHost path text.toList 1 = doc
  have docPath : doc.path = path := by rw [← given, Document.path_ofHost]
  have snapshot : disk.snapshot path =
      { text := doc.text, dialect := doc.dialect, version := 1 } := by
    rw [← given, settles.snapshot_eq]
  have stored := stored?_eq maker disk manager doc
  rw [docPath, tracks.snapshots, snapshot] at stored
  unfold sync
  by_cases known : Path.spells paths path = true
  · have current : manager.isCurrent doc = true := by
      rw [if_pos known] at stored
      simp [isCurrent, stored]
    obtain ⟨active, found, _⟩ := holds_of_isCurrent current
    rw [activate_of_active found] at tracks ⊢
    rw [if_pos current]
    exact ⟨active, found, rfl, tracks.cons_of_spells settles known⟩
  · have other : manager.isCurrent doc ≠ true := by
      rw [if_neg known] at stored
      simp [isCurrent, stored]
    obtain ⟨session, updated, _⟩ := update_cases maker disk manager doc
    have next : nextSnapshot (manager.activate maker disk).1.table doc = disk.snapshot path := by
      have version : doc.version = 1 := by rw [← given, Document.version_ofHost]
      rw [snapshot, nextSnapshot, Table.nextVersion, docPath, tracks.snapshots, if_neg known, version]
      rfl
    rw [if_neg other]
    refine ⟨_, updated, rfl, ?_⟩
    rw [next, docPath]
    exact tracks.put settles

theorem diagnostics_active {doc : Document} {active : ActiveSession E}
    (found : (manager.sync maker disk doc).active = some active) :
    ∃ engine, (manager.diagnostics maker disk doc).2.active = some (active.withEngine engine) := by
  simp only [diagnostics, activate_of_active found]
  exact ⟨_, rfl⟩

end

/-- A session about files of a disk, with the given configuration. -/
structure Checks (parser : Parser) (disk : Disk) (config : Project.Config) (paths : List Path)
    (manager : Manager ScriptEngine) : Prop where
  coherent : manager.Coherent parser
  config_eq : (manager.activate (scriptEngine parser) disk).1.config = config
  tracks : (manager.activate (scriptEngine parser) disk).1.table.Tracks disk paths

variable {parser : Parser} {disk : Disk} {config : Project.Config} {manager : Manager ScriptEngine}
  {paths : List Path} {path : Path} {text : String}

theorem checks_ofWorkspace (parser : Parser) (disk : Disk) (root : Path) :
    (ofWorkspace root).Checks parser disk (Project.Config.discover disk root) [] where
  coherent := coherent_of_inactive rfl
  config_eq := rfl
  tracks := .ofProjectFiles disk _

/-- A file is told what goes with the files in memory, itself among them, and the session goes on. -/
theorem Checks.diagnostics (checks : manager.Checks parser disk config paths)
    (settles : disk.Settles path text) :
    (manager.diagnostics (scriptEngine parser) disk (.ofHost path text.toList 1)).1 =
        (Document.ofHost path text.toList 1).diagnosticsWith parser
          (·.map (Module.resolveWithMarkup? config.options (disk.hostWith (path :: paths))
            path.normalize)) ∧
      (manager.diagnostics (scriptEngine parser) disk (.ofHost path text.toList 1)).2.Checks parser
        disk config (path :: paths) := by
  obtain ⟨synced, found, sameConfig, tracks⟩ := sync_tracks checks.tracks settles
  have docPath : (Document.ofHost path text.toList 1).path = path := Document.path_ofHost
  obtain ⟨active, alike, _, _, told, after⟩ :=
    checks.coherent.diagnostics disk (.ofHost path text.toList 1) (by
      have small := checks.tracks.version_le path
      rw [version_activate] at small
      rw [docPath]
      exact Nat.lt_of_le_of_lt small (by decide))
  obtain rfl : active = synced := Option.some.inj (alike.symm.trans found)
  have config_eq : active.config = config := sameConfig.trans checks.config_eq
  have means : (active.host disk).resolve path.normalize =
      (·.map (Module.resolveWithMarkup? config.options (disk.hostWith (path :: paths))
        path.normalize)) := by
    funext names
    simp only [ActiveSession.host, Table.host, config_eq, tracks.resolveWithMarkup?_eq]
  refine ⟨?_, after, ?_, ?_⟩
  · rw [told, docPath, means]
  all_goals
    obtain ⟨engine, next⟩ := diagnostics_active found
    rw [activate_of_active next]
  · exact config_eq
  · exact tracks

end Manager

/-! ## Checking files -/

namespace Command

section

variable (parser : Parser) (disk : Disk) (config : Project.Config)

/-- The file that an argument names. -/
def pathOf (name : String) : Path :=
  disk.absolute (Path.ofText name)

def documentOf (name : String) : Document :=
  .ofHost (pathOf disk name) ((disk.text? (pathOf disk name)).getD "").toList 1

/-- What an import of a file means when the given ones are in memory. -/
def meaning? (paths : List Path) (name : String) : String → Option Module.Resolved :=
  Module.resolveWithMarkup? config.options (disk.hostWith paths) (pathOf disk name).normalize

/-- What is told about a file when the given ones are in memory. -/
def reportWith (paths : List Path) (name : String) : FileReport where
  file := pathOf disk name
  diagnostics := (documentOf disk name).diagnosticsWith parser (·.map (meaning? disk config paths name))

/-- What is told about files one after another, each of which stays in memory. -/
def reportsAfter (paths : List Path) : List String → List FileReport
  | [] => []
  | name :: rest =>
      reportWith parser disk config (pathOf disk name :: paths) name ::
        reportsAfter (pathOf disk name :: paths) rest

end

variable {parser : Parser} {disk : Disk} {config : Project.Config} {paths : List Path} {name : String}
  {files : List String}

theorem meaning?_congr {others : List Path} (same : ∀ path, path ∈ paths ↔ path ∈ others) :
    meaning? disk config paths name = meaning? disk config others name := by
  have alike : Path.spells paths = Path.spells others := by
    funext path
    rw [Bool.eq_iff_iff, Path.spells_iff, Path.spells_iff]
    simp only [same]
  simp only [meaning?, Disk.hostWith, alike]

/-- A report tells which imports of the file find something, and no more about them. -/
theorem reportWith_eq_iff {others : List Path} :
    reportWith parser disk config paths name = reportWith parser disk config others name ↔
      ∀ specifier ∈ (documentOf disk name).importedNames parser,
        (meaning? disk config paths name specifier).isSome =
          (meaning? disk config others name specifier).isSome := by
  rw [reportWith, reportWith, FileReport.mk.injEq, Document.diagnosticsWith_eq_iff]
  exact and_iff_right rfl

theorem getElem?_reportsAfter (before after : List String) :
    (reportsAfter parser disk config paths (before ++ name :: after))[before.length]? =
      some (reportWith parser disk config ((before ++ [name]).map (pathOf disk) ++ paths) name) := by
  induction before generalizing paths with
  | nil => rfl
  | cons first rest ih =>
      have inMemory : meaning? disk config
          ((rest ++ [name]).map (pathOf disk) ++ pathOf disk first :: paths) name =
          meaning? disk config ((first :: rest ++ [name]).map (pathOf disk) ++ paths) name := by
        apply meaning?_congr
        intro path
        simp only [List.mem_append, List.mem_cons, List.map_append, List.map_cons, List.cons_append]
        tauto
      rw [List.cons_append, reportsAfter, List.length_cons, List.getElem?_cons_succ, ih, reportWith,
        inMemory]
      rfl

theorem length_reportsAfter (paths : List Path) (files : List String) :
    (reportsAfter parser disk config paths files).length = files.length := by
  induction files generalizing paths with
  | nil => rfl
  | cons name rest ih => rw [reportsAfter, List.length_cons, ih, List.length_cons]

theorem reportsAfter_eq_map {report : String → FileReport}
    (settled : ∀ path ∈ paths, ∃ text, disk.Settles path text)
    (settles : ∀ name ∈ files, ∃ text, disk.Settles (pathOf disk name) text)
    (alike : ∀ name ∈ files, ∀ paths, (∀ path ∈ paths, ∃ text, disk.Settles path text) →
      reportWith parser disk config paths name = report name) :
    reportsAfter parser disk config paths files = files.map report := by
  induction files generalizing paths with
  | nil => rfl
  | cons name rest ih =>
      have more : ∀ path ∈ pathOf disk name :: paths, ∃ text, disk.Settles path text :=
        List.forall_mem_cons.mpr ⟨settles name List.mem_cons_self, settled⟩
      rw [reportsAfter, List.map_cons, alike name List.mem_cons_self _ more,
        ih more (fun other member => settles other (List.mem_cons_of_mem _ member))
          fun other member => alike other (List.mem_cons_of_mem _ member)]

theorem checkFiles_eq {manager : Manager ScriptEngine}
    (checks : manager.Checks parser disk config paths)
    (settles : ∀ name ∈ files, ∃ text, disk.Settles (pathOf disk name) text) :
    checkFiles parser disk manager files = .ok (reportsAfter parser disk config paths files) := by
  induction files generalizing manager paths with
  | nil => rfl
  | cons name rest ih =>
      obtain ⟨text, settled⟩ := settles name List.mem_cons_self
      obtain ⟨told, after⟩ := checks.diagnostics settled
      have next := ih after fun other member => settles other (List.mem_cons_of_mem _ member)
      have read : disk.read (disk.absolute (Path.ofText name)) = .ok text := settled.read
      have document : documentOf disk name = .ofHost (pathOf disk name) text.toList 1 := by
        rw [documentOf, Disk.text?_of_read settled.read, Option.getD_some]
      rw [checkFiles]
      simp only [read]
      rw [← pathOf, next, told, reportsAfter, reportWith, document]
      rfl

theorem reports_eq (parser : Parser) (disk : Disk) (workspace : Path) {files : List String}
    (settles : ∀ name ∈ files, ∃ text, disk.Settles (pathOf disk name) text) :
    reports parser disk workspace files =
      .ok (reportsAfter parser disk (Project.Config.discover disk (disk.absolute workspace)) []
        files) :=
  checkFiles_eq (Manager.checks_ofWorkspace parser disk (disk.absolute workspace)) settles

/-- Where each path that is tried is a file exactly when its normal form is, it does not matter which
files are in memory. -/
theorem meaning?_of_lexical {tree : FileTree} {cwd : Path} {specifier : String}
    (settled : ∀ path ∈ paths, ∃ text, (tree.disk cwd).Settles path text)
    (lexical : ∀ path ∈ Module.tries config.options (tree.disk cwd).moduleHost
      (pathOf (tree.disk cwd) name).normalize specifier,
      (tree.disk cwd).isFile path = (tree.disk cwd).isFile path.normalize) :
    meaning? (tree.disk cwd) config paths name specifier =
      Module.resolveWithMarkup? config.options (tree.disk cwd).moduleHost
        (pathOf (tree.disk cwd) name).normalize specifier := by
  -- What spells a file in memory is a file itself.
  have isFile {path : Path} (spelled : Path.spells paths path = true)
      (same : (tree.disk cwd).isFile path = (tree.disk cwd).isFile path.normalize) :
      path.isAbsolute = true ∧ (tree.disk cwd).isFile path = true := by
    obtain ⟨given, member, alike⟩ := Path.spells_iff.mp spelled
    obtain ⟨text, settles⟩ := settled given member
    rw [same, ← Path.isAbsolute_normalize, ← alike, Path.isAbsolute_normalize]
    exact ⟨settles.absolute, settles.isFile⟩
  symm
  apply Module.resolveWithMarkup?_congr
  · intro path tried
    simp only [Disk.moduleHost, Disk.hostWith]
    cases spelled : Path.spells paths path with
    | false => rfl
    | true => rw [(isFile spelled (lexical path tried)).2]; rfl
  · intro place listed
    simp only [Disk.moduleHost, Disk.hostWith]
    split
    · rename_i spelled
      have tried : place.child "package.json" ∈ Module.tries config.options
          (tree.disk cwd).moduleHost (pathOf (tree.disk cwd) name).normalize specifier :=
        List.mem_append_left _ (List.mem_flatMap.mpr ⟨place, listed, List.mem_cons_self⟩)
      obtain ⟨absolute, found⟩ := isFile spelled (lexical _ tried)
      rw [FileTree.text?_disk_normalize absolute found]
    · rfl

/-- The errors of reports are none exactly when no report has one. -/
theorem sum_errorCount_eq_zero (reports : List FileReport) :
    reports.foldr (fun report count => report.errorCount + count) 0 = 0 ↔
      ∀ report ∈ reports, report.errorCount = 0 := by
  induction reports with
  | nil => simp
  | cons report rest ih => simp [ih]

theorem check_code_eq_zero {workspace : Path} {files : List String} {reports : List FileReport}
    (told : Command.reports parser disk workspace files = .ok reports) (json : Bool) :
    (check parser disk workspace files json).code = 0 ↔
      ∀ report ∈ reports, report.errorCount = 0 := by
  rw [← sum_errorCount_eq_zero]
  simp only [check, told]
  split
  · rename_i clean
    exact iff_of_true rfl clean
  · rename_i dirty
    exact iff_of_false (by simp [Outcome.failure]) dirty

/-- The errors of a file can be counted before they are put in order. -/
theorem errorCount_reportWith (parser : Parser) (disk : Disk) (config : Project.Config)
    (paths : List Path) (name : String) :
    (reportWith parser disk config paths name).errorCount =
      ((((documentOf disk name).source parser "0").parsingProblems ++
        ((documentOf disk name).source parser "0").meaningProblems
          (·.map (meaning? disk config paths name))).map
        ((documentOf disk name).diagnostic (documentOf disk name).dialect)).countP
          (·.severity == .error) :=
  (Document.diagnosticsWith_perm _ _ _).countP_eq _

/-- A file that is checked alone has no company but itself. -/
theorem check_singleton_code_eq_zero {workspace : Path} {text : String}
    (settles : disk.Settles (pathOf disk name) text) (json : Bool) :
    (check parser disk workspace [name] json).code = 0 ↔
      (reportWith parser disk (Project.Config.discover disk (disk.absolute workspace))
        [pathOf disk name] name).errorCount = 0 := by
  rw [check_code_eq_zero (reports_eq _ _ _ (List.forall_mem_singleton.mpr ⟨text, settles⟩)),
    reportsAfter, reportsAfter, List.forall_mem_singleton]

/-- If the reports of files are those that each of them gets alone, checking them fails exactly when
checking one of them does. -/
theorem check_fails_iff {workspace : Path} {files : List String} {report : String → FileReport}
    (together : reports parser disk workspace files = .ok (files.map report))
    (alone : ∀ name ∈ files, reports parser disk workspace [name] = .ok [report name]) (json : Bool) :
    (check parser disk workspace files json).code ≠ 0 ↔
      ∃ name ∈ files, (check parser disk workspace [name] json).code ≠ 0 := by
  rw [Ne, check_code_eq_zero together]
  constructor
  · intro failed
    simp only [List.forall_mem_map, Classical.not_forall] at failed
    obtain ⟨name, member, wrong⟩ := failed
    exact ⟨name, member, by rw [Ne, check_code_eq_zero (alone name member)]; simpa using wrong⟩
  · rintro ⟨name, member, failed⟩ clean
    rw [Ne, check_code_eq_zero (alone name member)] at failed
    exact failed (by simpa using clean _ (List.mem_map_of_mem member))

/-- How far checking is compositional. On every tree of files, checking files that can be read gives a
report for each of them. It is the report that the file gets alone exactly if the same imports of the
file find something, where the files before it are found under all spellings of their paths. If each
path that is tried for an import that is not relative is a file exactly when its normal form is, all
reports are those that the files get alone, and the command fails exactly when it fails for one of
them. -/
theorem check_compositional (parser : Parser) (tree : FileTree) (cwd workspace : Path)
    (fromRoot : cwd.isAbsolute = true) (files : List String)
    (readable : ∀ name ∈ files, (tree.disk cwd).IsReadable (pathOf (tree.disk cwd) name)) :
    let disk := tree.disk cwd
    let config := Project.Config.discover disk (disk.absolute workspace)
    ∃ (together : List FileReport) (alone : String → FileReport),
      reports parser disk workspace files = .ok together ∧
      together.length = files.length ∧
      (∀ name ∈ files, reports parser disk workspace [name] = .ok [alone name]) ∧
      (∀ before name after, files = before ++ name :: after →
        (together[before.length]? = some (alone name) ↔
          ∀ specifier ∈ (documentOf disk name).importedNames parser,
            (meaning? disk config ((before ++ [name]).map (pathOf disk)) name specifier).isSome =
              (meaning? disk config [pathOf disk name] name specifier).isSome)) ∧
      ((∀ name ∈ files, ∀ specifier ∈ (documentOf disk name).importedNames parser,
        Module.isRelative specifier = false →
        ∀ path ∈ Module.tries config.options disk.moduleHost (pathOf disk name).normalize specifier,
          disk.isFile path = disk.isFile path.normalize) →
        together = files.map alone ∧
        ∀ json, (check parser disk workspace files json).code ≠ 0 ↔
          ∃ name ∈ files, (check parser disk workspace [name] json).code ≠ 0) := by
  intro disk config
  have settles : ∀ name ∈ files, ∃ text, disk.Settles (pathOf disk name) text := by
    intro name member
    obtain ⟨-, text, read⟩ := readable name member
    exact ⟨text, FileTree.settles (Disk.isAbsolute_absolute fromRoot _) read⟩
  have together := reports_eq parser disk workspace settles
  have alone : ∀ name ∈ files, reports parser disk workspace [name] =
      .ok [reportWith parser disk config [pathOf disk name] name] := by
    intro name member
    exact reports_eq parser disk workspace (List.forall_mem_singleton.mpr (settles name member))
  refine ⟨_, fun name => reportWith parser disk config [pathOf disk name] name, together,
    length_reportsAfter [] files, alone, ?_, ?_⟩
  · rintro before name after rfl
    rw [getElem?_reportsAfter, List.append_nil, Option.some.injEq, reportWith_eq_iff]
  · intro lexical
    have same : reportsAfter parser disk config [] files =
        files.map fun name => reportWith parser disk config [pathOf disk name] name := by
      refine reportsAfter_eq_map (fun _ member => nomatch member) settles ?_
      intro name member paths settled
      refine reportWith_eq_iff.mpr fun specifier imported => ?_
      have tried : ∀ path ∈ Module.tries config.options disk.moduleHost
          (pathOf disk name).normalize specifier, disk.isFile path = disk.isFile path.normalize := by
        intro path listed
        cases relative : Module.isRelative specifier with
        | false => exact lexical name member specifier imported relative path listed
        | true => rw [Module.normalize_of_mem_tries relative listed]
      rw [meaning?_of_lexical settled tried,
        meaning?_of_lexical (List.forall_mem_singleton.mpr (settles name member)) tried]
    exact ⟨same, check_fails_iff (same ▸ together) alone⟩

/-- A script that imports a file of the packages by way of one of their directories. -/
private def detourText : String := "import 'x/../b';"

/-- A script that imports a file which is not there. -/
private def strayText : String := "import './d';"

private def detourParser : Parser :=
  .knowing [] [(usingText, usingTree),
    (detourText, .branch "program" "" 0 16 [.importing 0 6]),
    (strayText, .branch "program" "" 0 13 [.importing 0 3])]

/-- Two scripts, and packages of which more can be given. -/
private def detourTree (packages : List (String × FileTree)) : FileTree :=
  .dir [("node_modules", .dir (("b.ts", .file (some usingText)) :: packages)),
    ("a.ts", .file (some detourText)), ("c.ts", .file (some strayText))]

private def detourFiles : List String := ["node_modules/b.ts", "a.ts", "c.ts"]

/-- The directory of the detour is there. -/
theorem check_compositional_detour :
    let disk := (detourTree [("x", .dir [])]).disk Path.root
    (check detourParser disk Path.root ["a.ts"] false).code = 0 ∧
    (check detourParser disk Path.root detourFiles false).code ≠ 0 ∧
    ∃ alone,
      reports detourParser disk Path.root detourFiles = .ok (detourFiles.map alone) ∧
      ∀ name ∈ detourFiles, reports detourParser disk Path.root [name] = .ok [alone name] := by
  intro disk
  have importing : disk.Settles (pathOf disk "a.ts") detourText :=
    FileTree.settles (by decide +kernel) (by decide +kernel)
  have stray : disk.Settles (pathOf disk "c.ts") strayText :=
    FileTree.settles (by decide +kernel) (by decide +kernel)
  have found : (check detourParser disk Path.root ["a.ts"] false).code = 0 := by
    rw [check_singleton_code_eq_zero importing, errorCount_reportWith]
    decide +kernel
  have wrong : (check detourParser disk Path.root ["c.ts"] false).code ≠ 0 := by
    rw [Ne, check_singleton_code_eq_zero stray, errorCount_reportWith]
    decide +kernel
  have readable : ∀ name ∈ detourFiles, disk.IsReadable (pathOf disk name) := by
    intro name member
    simp only [detourFiles, List.mem_cons, List.not_mem_nil, or_false] at member
    rcases member with rfl | rfl | rfl
    · exact ⟨by decide +kernel, usingText, by decide +kernel⟩
    · exact ⟨by decide +kernel, detourText, importing.read⟩
    · exact ⟨by decide +kernel, strayText, stray.read⟩
  -- Here `node_modules/x/../b.ts` is a file, as `node_modules/b.ts` is.
  have lexical : (detourFiles.all fun name => ((documentOf disk name).importedNames detourParser).all
      fun specifier => Module.isRelative specifier ||
        (Module.tries (Project.Config.discover disk (disk.absolute Path.root)).options
          disk.moduleHost (pathOf disk name).normalize specifier).all fun path =>
          disk.isFile path == disk.isFile path.normalize) = true := by decide +kernel
  obtain ⟨_, alone, told, _, single, _, same⟩ := check_compositional detourParser
    (detourTree [("x", .dir [])]) Path.root Path.root rfl detourFiles readable
  obtain ⟨rfl, fails⟩ := same (by
    intro name member specifier imported bare path tried
    have checked := List.all_eq_true.mp (List.all_eq_true.mp lexical name member) specifier imported
    simp only [bare, Bool.false_or] at checked
    exact eq_of_beq (List.all_eq_true.mp checked path tried))
  exact ⟨found, (fails false).mpr ⟨"c.ts", by decide +kernel, wrong⟩, alone, told, single⟩

/-- The directory of the detour is not there. A script that imports a file by way of it has an error,
but not behind that file. -/
theorem check_depends_on_company :
    let disk := (detourTree []).disk Path.root
    (check detourParser disk Path.root ["a.ts"] false).code ≠ 0 ∧
    (check detourParser disk Path.root ["node_modules/b.ts", "a.ts"] false).code = 0 := by
  intro disk
  have importing : disk.Settles (pathOf disk "a.ts") detourText :=
    FileTree.settles (by decide +kernel) (by decide +kernel)
  have imported : disk.Settles (pathOf disk "node_modules/b.ts") usingText :=
    FileTree.settles (by decide +kernel) (by decide +kernel)
  constructor
  · rw [Ne, check_singleton_code_eq_zero importing, errorCount_reportWith]
    decide +kernel
  · rw [check_code_eq_zero (reports_eq _ _ _ (List.forall_mem_cons.mpr
        ⟨⟨_, imported⟩, List.forall_mem_singleton.mpr ⟨_, importing⟩⟩)),
      reportsAfter, reportsAfter, reportsAfter, List.forall_mem_cons, List.forall_mem_singleton,
      errorCount_reportWith, errorCount_reportWith]
    decide +kernel

end Command

end InlineScript
