import InlineScript.Proofs.Session.Table

/-!
Runs of changes to a table: scripts are stored, each time at the next version, and all of them are
forgotten now and then. Along every run the two maps of the table have the same keys, its files are
those of the project and those that were stored, and the version of a file depends on nothing but the
versions that were asked for this file since the scripts were last forgotten.
-/

namespace InlineScript.Table

variable {table : Table} {path other : Path}

/-! ## Changes -/

/-- Stores a script at the next version. The dialect it had before comes with the new table. -/
def store (table : Table) (path : Path) (text : String) (dialect : Dialect) (requested : UInt64) :
    Option Dialect × Table :=
  table.put path { text, dialect, version := table.nextVersion path requested.toNat }

inductive Change where
  | store (path : Path) (text : String) (dialect : Dialect) (requested : UInt64)
  | clear

def perform (table : Table) : Change → Table
  | .store path text dialect requested => (table.store path text dialect requested).2
  | .clear => table.clear

/-- The table of a project after changes one after another. -/
def afterChanges (paths : List Path) (changes : List Change) : Table :=
  changes.foldl perform (ofProjectFiles paths)

/-! ## Versions -/

/-- The version after `version`, if at least `requested` is asked for. -/
def raised (version : Nat) (requested : UInt64) : Nat :=
  max requested.toNat (min (version + 1) versionLimit)

theorem toNat_le_versionLimit (requested : UInt64) : requested.toNat ≤ versionLimit :=
  Nat.le_of_lt_succ requested.toNat_lt

theorem raised_le (version : Nat) (requested : UInt64) : raised version requested ≤ versionLimit :=
  Nat.max_le.mpr ⟨toNat_le_versionLimit requested, Nat.min_le_right _ _⟩

/-- A file that is not in memory counts as one of version zero. -/
theorem nextVersion_eq_raised (table : Table) (path : Path) (requested : UInt64) :
    table.nextVersion path requested.toNat = raised (table.version path) requested := by
  unfold nextVersion version raised
  cases table.snapshot? path with
  | none => rfl
  | some previous => rfl

theorem version_store (table : Table) (path : Path) (text : String) (dialect : Dialect)
    (requested : UInt64) (other : Path) :
    (table.store path text dialect requested).2.version other =
      if path.normalize = other.normalize then raised (table.version path) requested
      else table.version other := by
  rw [store, version_put, nextVersion_eq_raised]

theorem version_clear (table : Table) (path : Path) : table.clear.version path = 0 := by
  simp [clear, version, snapshot?]

theorem version_congr (same : path.normalize = other.normalize) :
    table.version path = table.version other := by
  simp only [version, snapshot?_congr same]

/-- What a table says of versions before and after a file is stored. -/
structure Raises (table : Table) (path : Path) (requested : UInt64) (next : Table) : Prop where
  higher : table.version path < versionLimit → table.version path < next.version path
  stays : table.version path = versionLimit → next.version path = versionLimit
  reached : requested.toNat ≤ next.version path
  bounded : next.version path ≤ versionLimit
  others : ∀ other, path.normalize ≠ other.normalize → next.version other = table.version other

theorem raises_store (table : Table) (path : Path) (text : String) (dialect : Dialect)
    (requested : UInt64) :
    table.Raises path requested (table.store path text dialect requested).2 := by
  have own := version_store table path text dialect requested path
  rw [if_pos rfl] at own
  have bound := raised_le (table.version path) requested
  refine ⟨?_, ?_, ?_, own ▸ bound, ?_⟩
  · rw [own, raised]
    omega
  · intro top
    refine Nat.le_antisymm (own ▸ bound) ?_
    rw [own, raised, top]
    omega
  · rw [own]
    exact Nat.le_max_left _ _
  · intro other differs
    rw [version_store, if_neg differs]

/-! ## Runs -/

def noteRequest (path : Path) (requests : List UInt64) : Change → List UInt64
  | .store other _ _ requested =>
      if other.normalize = path.normalize then requests ++ [requested] else requests
  | .clear => []

/-- The versions that were asked for a file since the scripts were last forgotten. -/
def requestsFor (path : Path) (changes : List Change) : List UInt64 :=
  changes.foldl (noteRequest path) []

/-- What holds of a table without scripts and is kept by every change holds after all changes. -/
theorem afterChanges_induction {motive : Table → List UInt64 → Prop} (path : Path)
    {paths : List Path} (start : motive (ofProjectFiles paths) [])
    (step : ∀ table requests change, motive table requests →
      motive (table.perform change) (noteRequest path requests change))
    (changes : List Change) : motive (afterChanges paths changes) (requestsFor path changes) := by
  have run (table : Table) (requests : List UInt64) (before : motive table requests) :
      motive (changes.foldl perform table) (changes.foldl (noteRequest path) requests) := by
    induction changes generalizing table requests with
    | nil => exact before
    | cons change rest ih => exact ih _ _ (step table requests change before)
  exact run _ _ start

theorem version_perform {requests : List UInt64} (change : Change)
    (known : table.version path = requests.foldl raised 0) :
    (table.perform change).version path = (noteRequest path requests change).foldl raised 0 := by
  cases change with
  | clear => exact version_clear table path
  | store other text dialect requested =>
      rw [perform, version_store, noteRequest]
      split
      next same => rw [List.foldl_append, ← known, version_congr same]; rfl
      next => exact known

theorem version_afterChanges (paths : List Path) (changes : List Change) (path : Path) :
    (afterChanges paths changes).version path = (requestsFor path changes).foldl raised 0 := by
  refine afterChanges_induction (motive := fun table requests =>
    table.version path = requests.foldl raised 0) path ?_ ?_ changes
  · simp only [version, snapshot?_ofProjectFiles, List.foldl_nil]
  · intro table requests change
    exact version_perform change

example : ([1, 2, 1, 1, 7, 3] : List UInt64).foldl raised 0 = 8 := by decide

theorem isTracked_perform {requests : List UInt64} (change : Change)
    (known : table.isTracked path = true ↔ requests ≠ []) :
    (table.perform change).isTracked path = true ↔ noteRequest path requests change ≠ [] := by
  cases change with
  | clear => simp [perform, clear, noteRequest, isTracked]
  | store other text dialect requested =>
      rw [isTracked_eq] at known ⊢
      rw [perform, store, snapshot?_put, noteRequest]
      split
      next => simp
      next => exact known

theorem isTracked_afterChanges (paths : List Path) (changes : List Change) (path : Path) :
    (afterChanges paths changes).isTracked path = true ↔ requestsFor path changes ≠ [] := by
  refine afterChanges_induction (motive := fun table requests =>
    table.isTracked path = true ↔ requests ≠ []) path ?_ ?_ changes
  · simp [isTracked_eq, snapshot?_ofProjectFiles]
  · intro table requests change
    exact isTracked_perform change

/-! ## Entries -/

/-- What every change keeps of a table for the files of a project. -/
structure Sound (paths : List Path) (table : Table) : Prop where
  projectFiles : table.projectFiles = Std.TreeSet.ofList (paths.map Path.normalize) Path.order
  normal : ∀ key ∈ table.snapshots.keys, key.normalize = key
  consistent : table.Consistent
  dialects : table.dialects.Equiv (table.snapshots.map fun _ snapshot => snapshot.dialect)

theorem map_insert_equiv (snapshots : Std.TreeMap Path Snapshot Path.order) (key : Path)
    (snapshot : Snapshot) :
    ((snapshots.map fun _ snapshot => snapshot.dialect).insert key snapshot.dialect).Equiv
      ((snapshots.insert key snapshot).map fun _ snapshot => snapshot.dialect) := by
  let : BEq Path := ⟨Path.same⟩
  have : Std.LawfulBEqCmp Path.order := Path.lawful_same
  have entries := Std.TreeMap.toList_insert_perm (t := snapshots) (k := key) (v := snapshot)
  refine .of_toList_perm (Std.TreeMap.toList_insert_perm.trans ?_)
  rw [Std.TreeMap.toList_map, Std.TreeMap.toList_map, List.filter_map]
  exact (entries.map fun entry => (entry.1, entry.2.dialect)).symm

theorem mem_keys_insert {snapshots : Std.TreeMap Path Snapshot Path.order} {key : Path}
    {snapshot : Snapshot} (member : other ∈ (snapshots.insert key snapshot).keys) :
    other = key ∨ other ∈ snapshots.keys := by
  let : BEq Path := ⟨Path.same⟩
  have : Std.LawfulBEqCmp Path.order := Path.lawful_same
  have entries := Std.TreeMap.toList_insert_perm (t := snapshots) (k := key) (v := snapshot)
  rw [← Std.TreeMap.map_fst_toList_eq_keys, (entries.map Prod.fst).mem_iff, List.map_cons,
    List.mem_cons] at member
  refine member.imp_right fun old => ?_
  rw [← Std.TreeMap.map_fst_toList_eq_keys]
  exact (List.filter_sublist.map Prod.fst).subset old

namespace Sound

variable {paths : List Path}

theorem ofProjectFiles (paths : List Path) : (ofProjectFiles paths).Sound paths where
  projectFiles := rfl
  normal := fun _ member => absurd member List.not_mem_nil
  consistent := consistent_ofProjectFiles paths
  dialects := .rfl

theorem put (sound : table.Sound paths) (path : Path) (snapshot : Snapshot) :
    (table.put path snapshot).2.Sound paths where
  projectFiles := sound.projectFiles
  normal := by
    intro key member
    rcases mem_keys_insert member with rfl | old
    · exact Path.normalize_normalize path
    · exact sound.normal key old
  consistent := sound.consistent.put
  dialects := (sound.dialects.insert _ _).trans (map_insert_equiv _ _ _)

theorem clear (sound : table.Sound paths) : table.clear.Sound paths where
  projectFiles := sound.projectFiles
  normal := fun _ member => absurd member List.not_mem_nil
  consistent := consistent_ofProjectFiles []
  dialects := .rfl

theorem perform (sound : table.Sound paths) (change : Change) : (table.perform change).Sound paths := by
  cases change with
  | store path text dialect requested => exact sound.put path _
  | clear => exact sound.clear

theorem toList_dialects (sound : table.Sound paths) :
    table.dialects.toList =
      table.snapshots.toList.map fun entry => (entry.1, entry.2.dialect) := by
  rw [sound.dialects.toList_eq, Std.TreeMap.toList_map]

theorem mem_files (sound : table.Sound paths) :
    path ∈ table.files ↔ path ∈ paths.map Path.normalize ∨ path ∈ table.snapshots.keys := by
  have normal : ∀ path ∈ paths.map Path.normalize, path.normalize = path := by simp
  have listed {path : Path} : path ∈ table.projectFiles.toList ↔ path ∈ paths.map Path.normalize := by
    rw [sound.projectFiles, Path.mem_toList_ofList_iff normal]
  rw [files, Path.mem_toList_insertMany_iff (fun path member => normal path (listed.mp member))
    sound.normal, listed]

theorem normalize_mem_keys (sound : table.Sound paths) :
    path.normalize ∈ table.snapshots.keys ↔ table.isTracked path = true := by
  let : BEq Path := ⟨Path.same⟩
  have : Std.LawfulBEqCmp Path.order := Path.lawful_same
  constructor
  · intro member
    exact Std.TreeMap.mem_iff_contains.mp (Std.TreeMap.mem_of_mem_keys member)
  · intro tracked
    rw [isTracked, ← Std.TreeMap.contains_keys, List.contains_eq_any_beq] at tracked
    obtain ⟨key, member, same⟩ := List.any_eq_true.mp tracked
    rwa [Path.eq_of_same path.normalize_normalize (sound.normal key member) same]

end Sound

theorem sound_afterChanges (paths : List Path) (changes : List Change) :
    (afterChanges paths changes).Sound paths :=
  afterChanges_induction (motive := fun table _ => table.Sound paths) Path.empty
    (Sound.ofProjectFiles paths) (fun _ _ change sound => sound.perform change) changes

/-- After any changes the two maps of a table have the same keys and tell the same dialects, so that
storing a script gives back the dialect of the state that is replaced. The files are those of the
project and those in memory, in order and each once. The version of a file starts at zero whenever
the scripts are forgotten, is raised with each store of this file up to the largest one, and takes no
part in other stores. -/
theorem afterChanges_entries_and_versions (paths : List Path) (changes : List Change) :
    let table := afterChanges paths changes
    (table.dialects.toList =
      table.snapshots.toList.map fun entry => (entry.1, entry.2.dialect)) ∧
    (∀ path snapshot, (table.put path snapshot).1 = (table.snapshot? path).map Snapshot.dialect) ∧
    table.files.Pairwise (fun first second => Path.order first second = .lt) ∧
    (∀ path, path ∈ table.files ↔
      path ∈ paths.map Path.normalize ∨ path ∈ table.snapshots.keys) ∧
    (∀ path, path.normalize ∈ table.snapshots.keys ↔ requestsFor path changes ≠ []) ∧
    (∀ path, table.version path = (requestsFor path changes).foldl raised 0) ∧
    ∀ path text dialect requested,
      table.Raises path requested (table.store path text dialect requested).2 := by
  intro table
  have sound : table.Sound paths := sound_afterChanges paths changes
  refine ⟨sound.toList_dialects, fun path _ => sound.consistent path, Std.TreeSet.ordered_toList,
    fun _ => sound.mem_files, ?_, version_afterChanges paths changes, table.raises_store⟩
  intro path
  rw [sound.normalize_mem_keys, isTracked_afterChanges]

end InlineScript.Table
