import InlineScript.Proofs.Session.Lifecycle

/-!
Updates of different scripts commute. The two orders lead to managers that are alike: they differ at
most in how their tables are built, and no later call can tell them apart.
-/

namespace InlineScript

/-! ## Tables -/

/-- In a map the order in which two different keys are inserted plays no part. -/
theorem Path.insert_comm {β : Type} (map : Std.TreeMap Path β Path.order) {first second : Path}
    (different : Path.order first second ≠ .eq) (x y : β) :
    ((map.insert first x).insert second y).Equiv ((map.insert second y).insert first x) := by
  have apart : ∀ key, ¬ (Path.order first key = .eq ∧ Path.order second key = .eq) := by
    rintro key ⟨left, right⟩
    exact different (Std.TransCmp.eq_trans left (Std.OrientedCmp.eq_symm right))
  refine .of_forall_getKey_eq_of_forall_constGet?_eq ?_ ?_
  · intro key inLeft inRight
    apply Option.some.inj
    rw [← Std.TreeMap.getKey?_eq_some_getKey, ← Std.TreeMap.getKey?_eq_some_getKey]
    simp only [Std.TreeMap.getKey?_insert]
    have := apart key
    split <;> split <;> simp_all
  · intro key
    simp only [Std.TreeMap.getElem?_insert]
    have := apart key
    split <;> split <;> simp_all

/-- Tables with the same entries. -/
structure Table.Alike (first second : Table) : Prop where
  projectFiles : first.projectFiles = second.projectFiles
  snapshots : first.snapshots.Equiv second.snapshots
  dialects : first.dialects.Equiv second.dialects

namespace Table.Alike

variable {first second : Table} {path other : Path}

theorem refl (table : Table) : table.Alike table :=
  ⟨rfl, .rfl, .rfl⟩

theorem snapshot?_eq (alike : first.Alike second) (path : Path) :
    first.snapshot? path = second.snapshot? path :=
  alike.snapshots.getElem?_eq

theorem dialect?_eq (alike : first.Alike second) (path : Path) :
    first.dialect? path = second.dialect? path :=
  alike.dialects.getElem?_eq

theorem version_eq (alike : first.Alike second) (path : Path) :
    first.version path = second.version path := by
  simp only [version, alike.snapshot?_eq]

theorem files_eq (alike : first.Alike second) : first.files = second.files := by
  simp only [files, alike.projectFiles, alike.snapshots.keys_eq]

theorem nextSnapshot_eq (alike : first.Alike second) (doc : Document) :
    Manager.nextSnapshot first doc = Manager.nextSnapshot second doc := by
  simp only [Manager.nextSnapshot, nextVersion, alike.snapshot?_eq]

/-- An engine cannot tell such tables apart. -/
theorem host_eq (alike : first.Alike second) (disk : Disk) (config : Project.Config) :
    first.host disk config = second.host disk config := by
  have exist : first.fileExists disk = second.fileExists disk := by
    funext path
    simp only [fileExists, isTracked_eq, alike.snapshot?_eq]
  have texts : first.fileText? disk = second.fileText? disk := by
    funext path
    simp only [fileText?, alike.snapshot?_eq]
  have reachable : first.moduleHost disk = second.moduleHost disk := by
    simp only [moduleHost, exist, texts]
  simp only [host, reachable, alike.files_eq, alike.version_eq, alike.snapshot?_eq,
    alike.dialect?_eq]

theorem put (alike : first.Alike second) (path : Path) (snapshot : Snapshot) :
    (first.put path snapshot).2.Alike (second.put path snapshot).2 where
  projectFiles := alike.projectFiles
  snapshots := alike.snapshots.insert _ _
  dialects := alike.dialects.insert _ _

theorem put_comm (table : Table) (different : path.normalize ≠ other.normalize) (x y : Snapshot) :
    ((table.put path x).2.put other y).2.Alike ((table.put other y).2.put path x).2 where
  projectFiles := rfl
  snapshots := Path.insert_comm _ (by simpa [Path.order_normalize_eq_iff] using different) _ _
  dialects := Path.insert_comm _ (by simpa [Path.order_normalize_eq_iff] using different) _ _

end Table.Alike

/-! ## Managers -/

structure ActiveSession.Alike {E : Type} (first second : ActiveSession E) : Prop where
  config : first.config = second.config
  session : first.session = second.session
  table : first.table.Alike second.table

namespace ActiveSession.Alike

variable {E : Type} {first second : ActiveSession E}

theorem refl (active : ActiveSession E) : active.Alike active :=
  ⟨rfl, rfl, .refl _⟩

theorem host_eq (alike : first.Alike second) (disk : Disk) : first.host disk = second.host disk := by
  rw [host, host, alike.config, alike.table.host_eq]

theorem store (alike : first.Alike second) (doc : Document) :
    (first.store doc).Alike (second.store doc) where
  config := alike.config
  session := alike.session
  table := by
    simp only [ActiveSession.store, alike.table.nextSnapshot_eq]
    exact alike.table.put _ _

theorem withEngine (alike : first.Alike second) (engine : E) :
    (first.withEngine engine).Alike (second.withEngine engine) where
  config := alike.config
  session := by simp only [ActiveSession.withEngine, alike.session]
  table := alike.table

end ActiveSession.Alike

/-- The next state of a script does not depend on what was stored of another one. -/
theorem Manager.nextSnapshot_put {table : Table} {doc : Document} {path : Path}
    (different : path.normalize ≠ doc.path.normalize) (snapshot : Snapshot) :
    nextSnapshot (table.put path snapshot).2 doc = nextSnapshot table doc := by
  simp only [nextSnapshot, Table.nextVersion, Table.snapshot?_put, if_neg different]

theorem ActiveSession.store_comm {E : Type} (active : ActiveSession E) {first second : Document}
    (different : first.path.normalize ≠ second.path.normalize) :
    ((active.store first).store second).Alike ((active.store second).store first) where
  config := rfl
  session := rfl
  table := by
    simp only [store, Manager.nextSnapshot_put different, Manager.nextSnapshot_put different.symm]
    exact .put_comm _ different _ _

/-- What a call returns. -/
inductive SessionAnswer where
  | outcome (outcome : UpdateOutcome)
  | diagnostics (diagnostics : List Diagnostic)
  | hover (hover : Option Hover)
  | nothing
deriving DecidableEq, Repr

/-- The kinds of outcomes, whatever the sessions. -/
inductive UpdateKind where
  | created
  | updated
  | restarted
deriving DecidableEq, Repr

def UpdateOutcome.kind : UpdateOutcome → UpdateKind
  | created => .created
  | updated => .updated
  | restarted _ _ => .restarted

namespace Manager

section

variable {E : Type} {first second : Manager E}

/-- Managers that differ at most in how their tables are built. -/
structure Alike (first second : Manager E) : Prop where
  workspaceRoot : first.workspaceRoot = second.workspaceRoot
  preset : first.preset = second.preset
  active : Option.Rel ActiveSession.Alike first.active second.active
  restartCount : first.restartCount = second.restartCount
  nextSession : first.nextSession = second.nextSession
  calls : first.calls = second.calls

theorem Alike.sessions (alike : first.Alike second) :
    (first.active = none ∧ second.active = none) ∨
      ∃ old new, first.active = some old ∧ second.active = some new ∧ old.Alike new := by
  have related := alike.active
  cases foundFirst : first.active with
  | none =>
      rw [foundFirst] at related
      cases foundSecond : second.active with
      | none => exact .inl ⟨rfl, rfl⟩
      | some new =>
          rw [foundSecond] at related
          contradiction
  | some old =>
      rw [foundFirst] at related
      cases foundSecond : second.active with
      | none =>
          rw [foundSecond] at related
          contradiction
      | some new =>
          rw [foundSecond] at related
          cases related with
          | some sessions => exact .inr ⟨old, new, rfl, rfl, sessions⟩

/-- Managers whose sessions are alike are alike if nothing else differs. -/
theorem Alike.of_active {old new : ActiveSession E} (alike : first.Alike second)
    (sessions : old.Alike new) (calls : List EngineCall) :
    Alike { first with active := some old, calls := first.calls ++ calls }
      { second with active := some new, calls := second.calls ++ calls } :=
  { alike with
    active := .some sessions
    calls := by simp only [alike.calls] }

variable (maker : Engine E) (disk : Disk)

theorem Alike.activate (alike : first.Alike second) :
    (first.activate maker disk).1.Alike (second.activate maker disk).1 ∧
      (first.activate maker disk).2.Alike (second.activate maker disk).2 := by
  rcases alike.sessions with
    ⟨foundFirst, foundSecond⟩ | ⟨old, new, foundFirst, foundSecond, sessions⟩
  · have config : first.startConfig disk = second.startConfig disk := by
      simp only [startConfig, alike.preset, alike.workspaceRoot]
    simp only [Manager.activate, foundFirst, foundSecond, config, alike.nextSession, alike.calls]
    exact ⟨.refl _, { alike with active := .some (.refl _), nextSession := rfl, calls := rfl }⟩
  · rw [activate_of_active foundFirst, activate_of_active foundSecond]
    exact ⟨sessions, alike⟩

theorem Alike.stored (doc : Document) (alike : first.Alike second) :
    (first.stored maker disk doc).Alike (second.stored maker disk doc) := by
  obtain ⟨sessions, managers⟩ := alike.activate maker disk
  exact { managers with active := .some (sessions.store doc) }

theorem Alike.restarted (doc : Document) (alike : first.Alike second) :
    (first.restarted maker disk doc).Alike (second.restarted maker disk doc) := by
  obtain ⟨sessions, managers⟩ := alike.activate maker disk
  have stored := sessions.store doc
  refine { managers with active := .some ?_, restartCount := ?_, nextSession := ?_, calls := ?_ }
  · exact ⟨stored.config, by rw [managers.nextSession, stored.session], stored.table⟩
  · simp only [Manager.restarted, restart, managers.restartCount]
  · simp only [Manager.restarted, restart, managers.nextSession]
  · simp only [Manager.restarted, restart, managers.calls, managers.nextSession, stored.session]

theorem Alike.update (doc : Document) (alike : first.Alike second) :
    (first.update maker disk doc).1 = (second.update maker disk doc).1 ∧
      (first.update maker disk doc).2.Alike (second.update maker disk doc).2 := by
  obtain ⟨sessions, managers⟩ := alike.activate maker disk
  rw [update_eq, update_eq, sessions.table.dialect?_eq, sessions.session, managers.nextSession]
  cases (second.activate maker disk).1.table.dialect? doc.path with
  | none => exact ⟨rfl, alike.stored maker disk doc⟩
  | some dialect =>
      by_cases same : dialect = doc.dialect
      · simp only [if_pos same]
        exact ⟨trivial, alike.stored maker disk doc⟩
      · simp only [if_neg same]
        exact ⟨trivial, alike.restarted maker disk doc⟩

theorem Alike.sync (doc : Document) (alike : first.Alike second) :
    (first.sync maker disk doc).Alike (second.sync maker disk doc) := by
  have stored : first.stored? doc = second.stored? doc := by
    rcases alike.sessions with
    ⟨foundFirst, foundSecond⟩ | ⟨old, new, foundFirst, foundSecond, sessions⟩
    · simp only [stored?, foundFirst, foundSecond]
    · simp only [stored?, foundFirst, foundSecond, Option.bind_some, sessions.table.snapshot?_eq]
  have current : first.isCurrent doc = second.isCurrent doc := by
    simp only [isCurrent, stored]
  unfold Manager.sync
  rw [current]
  split
  · exact alike
  · exact (alike.update maker disk doc).2

theorem Alike.diagnostics (doc : Document) (alike : first.Alike second) :
    (first.diagnostics maker disk doc).1 = (second.diagnostics maker disk doc).1 ∧
      (first.diagnostics maker disk doc).2.Alike (second.diagnostics maker disk doc).2 := by
  obtain ⟨sessions, managers⟩ := (alike.sync maker disk doc).activate maker disk
  simp only [Manager.diagnostics, sessions.host_eq, sessions.session]
  exact ⟨trivial, managers.of_active (sessions.withEngine _) _⟩

theorem Alike.hover (doc : Document) (position : Text.Position) (alike : first.Alike second) :
    (first.hover maker disk doc position).1 = (second.hover maker disk doc position).1 ∧
      (first.hover maker disk doc position).2.Alike (second.hover maker disk doc position).2 := by
  have synced := alike.sync maker disk doc
  obtain ⟨sessions, managers⟩ := synced.activate maker disk
  unfold Manager.hover
  by_cases inside : doc.contains position = true
  · simp only [inside, if_true, sessions.host_eq, sessions.session]
    split <;> exact ⟨rfl, managers.of_active (sessions.withEngine _) _⟩
  · simp only [inside]
    exact ⟨rfl, synced⟩

theorem Alike.reset (alike : first.Alike second) : first.reset.Alike second.reset := by
  rcases alike.sessions with
    ⟨foundFirst, foundSecond⟩ | ⟨old, new, foundFirst, foundSecond, sessions⟩
  · simp only [Manager.reset, foundFirst, foundSecond]
    exact alike
  · simp only [Manager.reset, foundFirst, foundSecond]
    exact { alike with active := .none, calls := by simp only [alike.calls, sessions.session] }

end

/-! ## Answers -/

section

variable {E : Type} (maker : Engine E) {first second : Manager E}

def answer (manager : Manager E) : Disk × SessionCall → SessionAnswer
  | (disk, .update doc) => .outcome (manager.update maker disk doc).1
  | (disk, .diagnostics doc) => .diagnostics (manager.diagnostics maker disk doc).1
  | (disk, .hover doc position) => .hover (manager.hover maker disk doc position).1
  | (_, .close _) | (_, .reset) => .nothing

/-- What calls one after another return. -/
def answers (manager : Manager E) : List (Disk × SessionCall) → List SessionAnswer
  | [] => []
  | call :: rest => manager.answer maker call :: (manager.perform maker call).answers rest

theorem Alike.perform (alike : first.Alike second) (call : Disk × SessionCall) :
    first.answer maker call = second.answer maker call ∧
      (first.perform maker call).Alike (second.perform maker call) := by
  obtain ⟨disk, call⟩ := call
  cases call with
  | update doc =>
      obtain ⟨same, after⟩ := alike.update maker disk doc
      exact ⟨congrArg SessionAnswer.outcome same, after⟩
  | diagnostics doc =>
      obtain ⟨same, after⟩ := alike.diagnostics maker disk doc
      exact ⟨congrArg SessionAnswer.diagnostics same, after⟩
  | hover doc position =>
      obtain ⟨same, after⟩ := alike.hover maker disk doc position
      exact ⟨congrArg SessionAnswer.hover same, after⟩
  | close doc => exact ⟨rfl, alike⟩
  | reset => exact ⟨rfl, alike.reset⟩

/-- No run of calls tells managers apart that are alike. -/
theorem Alike.answers_eq (alike : first.Alike second) (calls : List (Disk × SessionCall)) :
    first.answers maker calls = second.answers maker calls := by
  induction calls generalizing first second with
  | nil => rfl
  | cons call rest ih =>
      obtain ⟨same, after⟩ := alike.perform maker call
      rw [answers, answers, same, ih after]

end

/-! ## Two updates -/

section

variable {E : Type} (maker : Engine E) (disk : Disk) (manager : Manager E) {first second : Document}

/-- A script that is stored under another path has no part in whether a dialect changes. -/
theorem dialect?_activate_update (different : first.path.normalize ≠ second.path.normalize) :
    ((manager.update maker disk first).2.activate maker disk).1.table.dialect? second.path =
      (manager.activate maker disk).1.table.dialect? second.path := by
  rcases update_or maker disk manager first with ⟨_, updated⟩ | ⟨_, updated⟩
  · rw [updated, activate_of_active rfl]
    simp only [ActiveSession.store, Table.dialect?_put, if_neg different]
  · rw [updated, activate_of_active rfl]
    simp only [ActiveSession.store, Table.dialect?_put, if_neg different]

theorem hasOtherDialect_activate_update
    (different : first.path.normalize ≠ second.path.normalize) :
    ((manager.update maker disk first).2.activate maker disk).1.table.hasOtherDialect second ↔
      (manager.activate maker disk).1.table.hasOtherDialect second := by
  rw [Table.hasOtherDialect, Table.hasOtherDialect,
    dialect?_activate_update maker disk manager different]

section

variable {maker disk manager}

theorem update_of_hasOtherDialect
    (other : (manager.activate maker disk).1.table.hasOtherDialect first) :
    (manager.update maker disk first).2 = manager.restarted maker disk first := by
  rcases update_or maker disk manager first with ⟨same, _⟩ | ⟨_, updated⟩
  · contradiction
  · exact updated

theorem update_of_not_hasOtherDialect
    (same : ¬ (manager.activate maker disk).1.table.hasOtherDialect first) :
    (manager.update maker disk first).2 = manager.stored maker disk first := by
  rcases update_or maker disk manager first with ⟨_, updated⟩ | ⟨other, _⟩
  · exact updated
  · contradiction

end

theorem stored_of_active (started : Manager E) (doc : Document) {active : ActiveSession E}
    (found : started.active = some active) :
    started.stored maker disk doc = { started with active := some (active.store doc) } := by
  rw [stored, activate_of_active found]

theorem restarted_of_active (started : Manager E) (doc : Document) {active : ActiveSession E}
    (found : started.active = some active) :
    started.restarted maker disk doc = started.restart maker (active.store doc) := by
  rw [restarted, activate_of_active found]

/-- The two orders pass through different engines where only one of the scripts changes its dialect,
but both end with the engine of the last restart, which has not been asked anything. -/
theorem alike_update_update (different : first.path.normalize ≠ second.path.normalize) :
    ((manager.update maker disk first).2.update maker disk second).2.Alike
      ((manager.update maker disk second).2.update maker disk first).2 := by
  have secondLater := hasOtherDialect_activate_update maker disk manager different
  have firstLater := hasOtherDialect_activate_update maker disk manager different.symm
  have table := ((manager.activate maker disk).1.store_comm different).table
  -- which of the two restart is the same in both orders, and a restart keeps the table
  by_cases firstOther : (manager.activate maker disk).1.table.hasOtherDialect first
  · by_cases secondOther : (manager.activate maker disk).1.table.hasOtherDialect second
    · rw [update_of_hasOtherDialect (secondLater.mpr secondOther),
        update_of_hasOtherDialect (firstLater.mpr firstOther),
        update_of_hasOtherDialect firstOther, update_of_hasOtherDialect secondOther]
      rw [restarted_of_active maker disk (manager.restarted maker disk first) second rfl,
        restarted_of_active maker disk (manager.restarted maker disk second) first rfl]
      exact ⟨rfl, rfl, .some ⟨rfl, rfl, table⟩, rfl, rfl, rfl⟩
    · rw [update_of_not_hasOtherDialect (mt secondLater.mp secondOther),
        update_of_hasOtherDialect (firstLater.mpr firstOther),
        update_of_hasOtherDialect firstOther, update_of_not_hasOtherDialect secondOther]
      rw [stored_of_active maker disk (manager.restarted maker disk first) second rfl,
        restarted_of_active maker disk (manager.stored maker disk second) first rfl]
      exact ⟨rfl, rfl, .some ⟨rfl, rfl, table⟩, rfl, rfl, rfl⟩
  · by_cases secondOther : (manager.activate maker disk).1.table.hasOtherDialect second
    · rw [update_of_hasOtherDialect (secondLater.mpr secondOther),
        update_of_not_hasOtherDialect (mt firstLater.mp firstOther),
        update_of_not_hasOtherDialect firstOther, update_of_hasOtherDialect secondOther]
      rw [restarted_of_active maker disk (manager.stored maker disk first) second rfl,
        stored_of_active maker disk (manager.restarted maker disk second) first rfl]
      exact ⟨rfl, rfl, .some ⟨rfl, rfl, table⟩, rfl, rfl, rfl⟩
    · rw [update_of_not_hasOtherDialect (mt secondLater.mp secondOther),
        update_of_not_hasOtherDialect (mt firstLater.mp firstOther),
        update_of_not_hasOtherDialect firstOther, update_of_not_hasOtherDialect secondOther]
      rw [stored_of_active maker disk (manager.stored maker disk first) second rfl,
        stored_of_active maker disk (manager.stored maker disk second) first rfl]
      exact ⟨rfl, rfl, .some ⟨rfl, rfl, table⟩, rfl, rfl, rfl⟩

/-- The dialect that a script had before decides the kind of outcome. -/
theorem kind_update (doc : Document) :
    (manager.update maker disk doc).1.kind =
      match (manager.activate maker disk).1.table.dialect? doc.path with
      | none => .created
      | some dialect => if dialect = doc.dialect then .updated else .restarted := by
  rw [update_eq]
  cases (manager.activate maker disk).1.table.dialect? doc.path with
  | none => rfl
  | some dialect =>
      by_cases same : dialect = doc.dialect
      · simp only [if_pos same]
        rfl
      · simp only [if_neg same]
        rfl

theorem kind_update_update (different : first.path.normalize ≠ second.path.normalize) :
    ((manager.update maker disk first).2.update maker disk second).1.kind =
      (manager.update maker disk second).1.kind := by
  rw [kind_update, kind_update, dialect?_activate_update maker disk manager different]

/-- Updates of different scripts commute. For every manager, both orders lead to the same entries in
the table and the same count of restarts, each update has an outcome of the same kind, and every
later run of calls is answered alike. -/
theorem updates_commute (different : first.path.normalize ≠ second.path.normalize) :
    ∃ inOrder swapped : ActiveSession E,
      ((manager.update maker disk first).2.update maker disk second).2.active = some inOrder ∧
      ((manager.update maker disk second).2.update maker disk first).2.active = some swapped ∧
      (∀ path, inOrder.table.snapshot? path = swapped.table.snapshot? path ∧
        inOrder.table.dialect? path = swapped.table.dialect? path ∧
        inOrder.table.version path = swapped.table.version path) ∧
      inOrder.table.files = swapped.table.files ∧
      ((manager.update maker disk first).2.update maker disk second).2.restartCount =
        ((manager.update maker disk second).2.update maker disk first).2.restartCount ∧
      (manager.update maker disk first).1.kind =
        ((manager.update maker disk second).2.update maker disk first).1.kind ∧
      (manager.update maker disk second).1.kind =
        ((manager.update maker disk first).2.update maker disk second).1.kind ∧
      ∀ calls,
        ((manager.update maker disk first).2.update maker disk second).2.answers maker calls =
          ((manager.update maker disk second).2.update maker disk first).2.answers maker calls := by
  have alike := alike_update_update maker disk manager different
  obtain ⟨session, updated, _⟩ :=
    update_cases maker disk (manager.update maker disk first).2 second
  -- an update leaves a session behind, so the first case does not arise
  rcases alike.sessions with ⟨none, _⟩ | ⟨inOrder, swapped, foundInOrder, foundSwapped, sessions⟩
  · rw [updated] at none
    contradiction
  · have table := sessions.table
    refine ⟨inOrder, swapped, foundInOrder, foundSwapped, ?_, table.files_eq, alike.restartCount,
      (kind_update_update maker disk manager different.symm).symm,
      (kind_update_update maker disk manager different).symm, alike.answers_eq maker⟩
    intro path
    exact ⟨table.snapshot?_eq path, table.dialect?_eq path, table.version_eq path⟩

end

private def untypedPart : Document :=
  .ofBounds (Path.ofText "/a/p.html") usingText.toList 0 7 7 ∅

private def typedPart : Document :=
  .ofBounds (Path.ofText "/a/./p.html") misfitText.toList 0 29 2
    ((∅ : Attributes).insert "lang" "ts")

private def otherPart : Document :=
  .ofBounds (Path.ofText "/q.html") usingText.toList 0 7 1 ∅

private def partMaker : Engine ScriptEngine :=
  scriptEngine scriptParser

/-- A manager in which a file has an untyped script. -/
private def partlyTyped : Manager ScriptEngine :=
  (ofConfig { root := Path.root }).performAll partMaker
    [(scriptDisk, .diagnostics untypedPart)]

private def laterCalls : List (Disk × SessionCall) :=
  [(scriptDisk, .diagnostics typedPart), (scriptDisk, .hover otherPart ⟨0, 6⟩)]

theorem updates_commute_partlyTyped :
    typedPart.path.normalize ≠ otherPart.path.normalize ∧
      (partlyTyped.update partMaker scriptDisk typedPart).1 = .restarted 1 2 ∧
      ((partlyTyped.update partMaker scriptDisk otherPart).2.update
        partMaker scriptDisk typedPart).1.kind = .restarted ∧
      ((partlyTyped.update partMaker scriptDisk typedPart).2.update
        partMaker scriptDisk otherPart).2.answer partMaker (scriptDisk, .hover otherPart ⟨0, 6⟩) =
        .hover (some ⟨⟨⟨0, 6⟩, ⟨0, 7⟩⟩, "js", "let a: any", none⟩) ∧
      ((partlyTyped.update partMaker scriptDisk typedPart).2.update
        partMaker scriptDisk otherPart).2.answers partMaker laterCalls =
      ((partlyTyped.update partMaker scriptDisk otherPart).2.update
        partMaker scriptDisk typedPart).2.answers partMaker laterCalls := by
  have different : typedPart.path.normalize ≠ otherPart.path.normalize := by decide +kernel
  have restarted : (partlyTyped.update partMaker scriptDisk typedPart).1 = .restarted 1 2 := by
    decide +kernel
  obtain ⟨_, _, _, _, _, _, _, kind, _, answers⟩ :=
    updates_commute partMaker scriptDisk partlyTyped different
  exact ⟨different, restarted, by rw [← kind, restarted]; rfl, by decide +kernel, answers laterCalls⟩

end Manager

end InlineScript
