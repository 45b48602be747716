import Std.Data.String.ToNat
import InlineScript.Engine.Script
import InlineScript.Proofs.Session.Table
import InlineScript.Session.Manager

/-!
Coherence of a session: each file that its engine keeps is a state that the file's script had, and
the present one if it has the present version. Every call of a manager keeps a session coherent as
long as no script has the largest version, and a coherent session answers from the text and the
dialect of the document that is asked about.
-/

namespace InlineScript

/-! ## Documents -/

namespace Document

variable (parser : Parser) (doc : Document)

/-- The script of a document, parsed. -/
def source (version : String) : SourceFile :=
  SourceFile.parse parser doc.path.normalize version doc.dialect.scriptKind doc.text

theorem dialect_cases : doc.dialect = .script ∨ doc.dialect = .typedScript := by
  unfold dialect Dialect.ofAttributes
  split
  · exact .inr rfl
  · exact .inl rfl

/-- An engine never has to guess the kind of a document's script. -/
theorem firstKind_dialect (options : CompilerOptions) (path : Path) :
    ScriptEngine.firstKind options doc.dialect.scriptKind path = doc.dialect.scriptKind := by
  rcases doc.dialect_cases with script | typed
  · rw [script]; rfl
  · rw [typed]; rfl

end Document

/-- A table that has the text and the dialect of a document. -/
def Table.Holds (table : Table) (doc : Document) : Prop :=
  ∃ snapshot, table.snapshot? doc.path = some snapshot ∧
    snapshot.dialect = doc.dialect ∧ snapshot.text = doc.text

/-! ## Engines -/

/-- A file that was parsed from a state of a script, which is the given one if its version is. -/
def SourceFile.IsStateOf (parser : Parser) (path : Path) (snapshot : Snapshot) (file : SourceFile) :
    Prop :=
  ∃ version text, version ≤ snapshot.version ∧ (version = snapshot.version → text = snapshot.text) ∧
    file = SourceFile.parse parser path.normalize (toString version) snapshot.dialect.scriptKind text

namespace SourceFile.IsStateOf

variable {parser : Parser} {path : Path} {snapshot later : Snapshot} {file : SourceFile}

theorem parse (parser : Parser) (path : Path) (snapshot : Snapshot) :
    IsStateOf parser path snapshot
      (SourceFile.parse parser path.normalize (toString snapshot.version)
        snapshot.dialect.scriptKind snapshot.text) :=
  ⟨snapshot.version, snapshot.text, Nat.le_refl _, fun _ => rfl, rfl⟩

theorem kind_eq (state : IsStateOf parser path snapshot file) :
    file.kind = snapshot.dialect.scriptKind := by
  obtain ⟨version, text, _, _, rfl⟩ := state
  rfl

/-- A kept file with the present version has the present text. -/
theorem eq_parse (state : IsStateOf parser path snapshot file)
    (present : file.version = toString snapshot.version) :
    file = SourceFile.parse parser path.normalize (toString snapshot.version)
      snapshot.dialect.scriptKind snapshot.text := by
  obtain ⟨version, text, _, sameText, rfl⟩ := state
  have same : version = snapshot.version := Nat.repr_injective present
  rw [sameText same, same]

/-- A greater version of the same dialect makes a kept file an earlier state. -/
theorem of_later (state : IsStateOf parser path snapshot file)
    (greater : snapshot.version < later.version) (dialect : snapshot.dialect = later.dialect) :
    IsStateOf parser path later file := by
  obtain ⟨version, text, bound, _, rfl⟩ := state
  refine ⟨version, text, by omega, ?_, by rw [dialect]⟩
  intro same
  omega

end SourceFile.IsStateOf

/-- What an engine keeps agrees with a table. -/
structure ScriptEngine.Coherent (parser : Parser) (table : Table) (engine : ScriptEngine) : Prop where
  live : engine.isDisposed = false
  kept : ∀ path file, engine.files[path.normalize]? = some file →
    ∃ snapshot, table.snapshot? path = some snapshot ∧ file.IsStateOf parser path snapshot

namespace ScriptEngine

variable {parser : Parser} {disk : Disk} {table : Table} {engine : ScriptEngine}
  {config : Project.Config} {doc : Document}

theorem Coherent.create (parser : Parser) (table : Table) (options : CompilerOptions) :
    (create options).Coherent parser table where
  live := rfl
  kept path file found := by simp [ScriptEngine.create] at found

/-- A coherent engine takes the script of a stored document as the document has it. -/
theorem Coherent.current_eq (coherent : engine.Coherent parser table) (consistent : table.Consistent)
    (holds : table.Holds doc) :
    current parser engine (table.host disk config) doc.path.normalize =
      .ok (doc.source parser ((table.host disk config).version doc.path.normalize)) := by
  obtain ⟨snapshot, found, dialect, text⟩ := holds
  have version : (table.host disk config).version doc.path.normalize = toString snapshot.version := by
    simp only [Table.host, Table.version_normalize, Table.version_of_snapshot? found]
  have listed : (table.host disk config).names.any doc.path.normalize.same = true :=
    Table.any_files_of_snapshot? found
  have present : (table.host disk config).text? doc.path.normalize = some doc.text := by
    simp only [EngineHost.text?, Table.host, Table.snapshot?_normalize, found, Option.map_some, text,
      Option.some_or]
  have kind : (table.host disk config).kind doc.path.normalize = doc.dialect.scriptKind := by
    simp only [Table.host, Table.dialect?_normalize, consistent doc.path, found, Option.map_some,
      Option.elim_some, dialect]
  have source : doc.source parser (toString snapshot.version) =
      SourceFile.parse parser doc.path.normalize (toString snapshot.version)
        snapshot.dialect.scriptKind snapshot.text := by
    rw [Document.source, dialect, text]
  simp only [current, coherent.live, Bool.false_eq_true, if_false, listed, if_true]
  cases kept : engine.files[doc.path.normalize]? with
  | none =>
      simp only [parsed, present, kind, Document.firstKind_dialect]
      rfl
  | some file =>
      obtain ⟨state, sameState, isState⟩ := coherent.kept _ _ kept
      obtain rfl : snapshot = state := Option.some.inj (found.symm.trans sameState)
      by_cases fresh : file.version = (table.host disk config).version doc.path.normalize
      · simp only [if_pos fresh]
        rw [isState.eq_parse (fresh.trans version), version, source]
      · simp only [if_neg fresh, parsed, present, isState.kind_eq, dialect]
        rfl

/-- Keeping the script of a stored document keeps an engine coherent. -/
theorem Coherent.keep (disk : Disk) (config : Project.Config) (coherent : engine.Coherent parser table) (holds : table.Holds doc) :
    (engine.keep doc.path.normalize
      (doc.source parser ((table.host disk config).version doc.path.normalize))).Coherent parser
        table where
  live := coherent.live
  kept path file found := by
    obtain ⟨snapshot, stored, dialect, text⟩ := holds
    simp only [ScriptEngine.keep, Std.TreeMap.getElem?_insert, Path.order_normalize_eq_iff] at found
    split at found
    · rename_i same
      refine ⟨snapshot, (Table.snapshot?_congr same).symm.trans stored, ?_⟩
      have version : (table.host disk config).version doc.path.normalize =
          toString snapshot.version := by
        simp only [Table.host, Table.version_normalize, Table.version_of_snapshot? stored]
      cases found
      rw [version, Document.source, ← dialect, ← text, same]
      exact .parse parser path snapshot
    · exact coherent.kept path file found

/-- A stored document gets an answer from its own script, and the engine stays coherent. -/
theorem Coherent.ask_eq {α : Type} (disk : Disk) (config : Project.Config)
    (coherent : engine.Coherent parser table) (consistent : table.Consistent) (holds : table.Holds doc) (answer : SourceFile → α) :
    ∃ next : ScriptEngine, next.Coherent parser table ∧
      ask parser engine (table.host disk config) doc.path.normalize answer =
        (.ok (answer (doc.source parser ((table.host disk config).version doc.path.normalize))),
          next) := by
  refine ⟨_, coherent.keep disk config holds, ?_⟩
  simp only [ask, coherent.current_eq consistent holds]

/-- Storing a greater version of a script of the same dialect keeps an engine coherent. -/
theorem Coherent.put (coherent : engine.Coherent parser table) {path : Path} {snapshot : Snapshot}
    (greater : table.version path < snapshot.version)
    (dialect : ∀ previous, table.snapshot? path = some previous →
      previous.dialect = snapshot.dialect) :
    engine.Coherent parser (table.put path snapshot).2 where
  live := coherent.live
  kept other file found := by
    obtain ⟨previous, stored, state⟩ := coherent.kept other file found
    rw [Table.snapshot?_put]
    by_cases same : path.normalize = other.normalize
    · have storedHere : table.snapshot? path = some previous :=
        (Table.snapshot?_congr same).trans stored
      rw [Table.version_of_snapshot? storedHere] at greater
      exact ⟨snapshot, if_pos same, state.of_later greater (dialect previous storedHere)⟩
    · exact ⟨previous, by rw [if_neg same, stored], state⟩

end ScriptEngine

/-! ## Sessions -/

structure ActiveSession.Coherent (parser : Parser) (active : ActiveSession ScriptEngine) : Prop where
  consistent : active.table.Consistent
  engine : active.session.engine.Coherent parser active.table

theorem ActiveSession.Coherent.start (parser : Parser) (config : Project.Config) (id : Nat) :
    (ActiveSession.start (scriptEngine parser) config id).Coherent parser where
  consistent := Table.consistent_ofProjectFiles _
  engine := .create parser _ _

namespace Manager

section

variable {E : Type} {maker : Engine E} {disk : Disk} {manager : Manager E} {doc : Document}

theorem activate_of_active {active : ActiveSession E} (found : manager.active = some active) :
    manager.activate maker disk = (active, manager) := by
  simp only [activate, found]

theorem activate_of_inactive (none : manager.active = none) :
    (manager.activate maker disk).1 =
      ActiveSession.start maker (manager.startConfig disk) manager.nextSession := by
  simp only [activate, none]

theorem version_activate (path : Path) :
    (manager.activate maker disk).1.table.version path = manager.version path := by
  cases found : manager.active with
  | none =>
      rw [activate_of_inactive found]
      simp only [ActiveSession.start, Table.version, Table.snapshot?_ofProjectFiles, version, found]
  | some active =>
      rw [activate_of_active found]
      simp only [version, found]

/-- The state of a document's script that an update stores. -/
def nextSnapshot (table : Table) (doc : Document) : Snapshot where
  text := doc.text
  dialect := doc.dialect
  version := table.nextVersion doc.path doc.version

/-- An update stores the script. The engine goes on unless there was another dialect. -/
theorem update_cases (maker : Engine E) (disk : Disk) (manager : Manager E) (doc : Document) :
    ∃ session : EngineSession E,
      (manager.update maker disk doc).2.active =
        some { config := (manager.activate maker disk).1.config
               table := ((manager.activate maker disk).1.table.put doc.path
                 (nextSnapshot (manager.activate maker disk).1.table doc)).2
               session } ∧
      ((session = (manager.activate maker disk).1.session ∧
          ∀ dialect, (manager.activate maker disk).1.table.dialect? doc.path = some dialect →
            dialect = doc.dialect) ∨
        ∃ id, session =
          EngineSession.create maker id (manager.activate maker disk).1.session.options) := by
  generalize started : manager.activate maker disk = result
  obtain ⟨active, next⟩ := result
  simp only [update, started, Table.put]
  cases before : active.table.dialect? doc.path with
  | none => exact ⟨active.session, rfl, .inl ⟨rfl, by simp⟩⟩
  | some dialect =>
      by_cases same : dialect = doc.dialect
      · simp only [if_pos same]
        exact ⟨active.session, rfl, .inl ⟨rfl, by simpa using same⟩⟩
      · simp only [if_neg same]
        exact ⟨_, rfl, .inr ⟨_, rfl⟩⟩

theorem holds_nextSnapshot (table : Table) (doc : Document) :
    (table.put doc.path (nextSnapshot table doc)).2.Holds doc :=
  ⟨nextSnapshot table doc, by rw [Table.snapshot?_put, if_pos rfl], rfl, rfl⟩

theorem holds_of_isCurrent (current : manager.isCurrent doc = true) :
    ∃ active, manager.active = some active ∧ active.table.Holds doc := by
  unfold isCurrent stored? at current
  cases found : manager.active with
  | none => simp [found] at current
  | some active =>
      refine ⟨active, rfl, ?_⟩
      simp only [found, Option.bind_some] at current
      cases stored : active.table.snapshot? doc.path with
      | none => simp [stored] at current
      | some snapshot =>
          simp only [stored, Bool.and_eq_true, beq_iff_eq] at current
          exact ⟨snapshot, stored, current.1, current.2⟩

/-- After a document is synced, a session has it. -/
theorem sync_holds (maker : Engine E) (disk : Disk) (manager : Manager E) (doc : Document) :
    ∃ active, (manager.sync maker disk doc).active = some active ∧ active.table.Holds doc := by
  unfold sync
  split
  · rename_i current
    exact holds_of_isCurrent current
  · obtain ⟨session, updated, _⟩ := update_cases maker disk manager doc
    exact ⟨_, updated, holds_nextSnapshot _ doc⟩

end

/-! ## Versions -/

section

variable {E : Type} {maker : Engine E} {disk : Disk} {manager : Manager E} {doc : Document}

/-- All versions that are stored are below a bound. -/
def VersionsBelow (bound : Nat) (manager : Manager E) : Prop :=
  ∀ path, manager.version path < bound

theorem versionsBelow_of_inactive {bound : Nat} (none : manager.active = none)
    (positive : 0 < bound) : manager.VersionsBelow bound := by
  intro path
  simpa only [version, none] using positive

theorem VersionsBelow.update {bound : Nat} (below : manager.VersionsBelow bound)
    (requested : doc.version ≤ bound) :
    (manager.update maker disk doc).2.VersionsBelow (bound + 1) := by
  intro path
  obtain ⟨session, updated, _⟩ := update_cases maker disk manager doc
  simp only [version, updated, Table.version_put]
  split
  · have stored := Table.nextVersion_le (manager.activate maker disk).1.table doc.path requested (by rw [version_activate]; exact below doc.path)
    exact Nat.lt_succ_of_le stored
  · rw [version_activate]
    exact Nat.lt_succ_of_lt (below path)

theorem VersionsBelow.sync {bound : Nat} (below : manager.VersionsBelow bound)
    (requested : doc.version ≤ bound) :
    (manager.sync maker disk doc).VersionsBelow (bound + 1) := by
  unfold Manager.sync
  split
  · exact fun path => Nat.lt_succ_of_lt (below path)
  · exact below.update requested

end

/-! ## Coherence -/

section

variable {parser : Parser} {disk : Disk} {manager : Manager ScriptEngine} {doc : Document}

def Coherent (parser : Parser) (manager : Manager ScriptEngine) : Prop :=
  ∀ active, manager.active = some active → active.Coherent parser

theorem coherent_of_inactive (none : manager.active = none) : manager.Coherent parser := by
  intro active found
  rw [none] at found
  contradiction

theorem Coherent.activate (disk : Disk) (coherent : manager.Coherent parser) :
    (manager.activate (scriptEngine parser) disk).1.Coherent parser := by
  cases found : manager.active with
  | none =>
      rw [activate_of_inactive found]
      exact .start parser _ _
  | some active =>
      rw [activate_of_active found]
      exact coherent active found

theorem Coherent.update (disk : Disk) (coherent : manager.Coherent parser)
    (below : manager.version doc.path < Table.versionLimit) :
    (manager.update (scriptEngine parser) disk doc).2.Coherent parser := by
  obtain ⟨session, updated, engine⟩ := update_cases (scriptEngine parser) disk manager doc
  have before := coherent.activate disk
  intro active found
  obtain rfl := Option.some.inj (updated.symm.trans found)
  refine ⟨before.consistent.put, ?_⟩
  rcases engine with ⟨rfl, sameDialect⟩ | ⟨id, rfl⟩
  · refine before.engine.put ?_ ?_
    · exact Table.version_lt_nextVersion (by rw [version_activate]; exact below) doc.version
    · intro previous stored
      apply sameDialect
      rw [before.consistent doc.path, stored]
      rfl
  · exact .create parser _ _

theorem Coherent.sync (disk : Disk) (coherent : manager.Coherent parser)
    (below : manager.version doc.path < Table.versionLimit) :
    (manager.sync (scriptEngine parser) disk doc).Coherent parser := by
  unfold Manager.sync
  split
  · exact coherent
  · exact coherent.update disk below

end

end Manager

end InlineScript
