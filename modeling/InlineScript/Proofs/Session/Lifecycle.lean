import Mathlib.Data.List.Chain
import InlineScript.Proofs.Session.Transparency

/-!
The life of engines. Whatever the engines are, a manager has one at a time: each is created where
none is alive, asked only while it lives, and disposed before the next is created. An engine is
replaced exactly where a call changes the dialect of a script, and nothing else changes then.
-/

namespace InlineScript

/-! ## Journals -/

/-- The two ends of an engine's life. -/
inductive LifeEvent where
  | creation
  | disposal
deriving DecidableEq, Repr

/-- Another event goes on with the turns if it is not the last one again. -/
theorem LifeEvent.turns_concat {events : List LifeEvent} (event : LifeEvent)
    (chain : events.IsChain (· ≠ ·)) (first : events.head? ≠ some .disposal)
    (other : events.getLast? ≠ some event) (later : event = .disposal → events ≠ []) :
    (events ++ [event]).IsChain (· ≠ ·) ∧ (events ++ [event]).head? ≠ some .disposal := by
  constructor
  · rw [List.isChain_append]
    refine ⟨chain, List.isChain_singleton event, ?_⟩
    intro last ending next listed same
    have next : event = next := Option.some.inj listed
    exact other (next ▸ same ▸ ending)
  · cases events with
    | nil =>
        cases event with
        | creation => simp
        | disposal => exact absurd rfl (later rfl)
    | cons head rest => simpa using first

namespace EngineCall

/-- The session whose engine is called. -/
def session : EngineCall → Nat
  | create id | dispose id | syntactic id _ | semantic id _ | quickInfo id _ => id

def isQuestion : EngineCall → Bool
  | create _ | dispose _ => false
  | syntactic _ _ | semantic _ _ | quickInfo _ _ => true

def lifeEvent? : EngineCall → Option LifeEvent
  | create _ => some .creation
  | dispose _ => some .disposal
  | syntactic _ _ | semantic _ _ | quickInfo _ _ => none

/-- The session of an engine that is created. -/
def created? : EngineCall → Option Nat
  | create id => some id
  | dispose _ | syntactic _ _ | semantic _ _ | quickInfo _ _ => none

variable {call : EngineCall}

theorem lifeEvent?_of_isQuestion (question : call.isQuestion = true) : call.lifeEvent? = none := by
  cases call with
  | create | dispose => contradiction
  | syntactic | semantic | quickInfo => rfl

theorem created?_of_isQuestion (question : call.isQuestion = true) : call.created? = none := by
  cases call with
  | create | dispose => contradiction
  | syntactic | semantic | quickInfo => rfl

/-- Each disposal is directly followed by a creation. -/
def EachReplaced (calls : List EngineCall) : Prop :=
  ∀ early id late, calls = early ++ .dispose id :: late → ∃ next rest, late = .create next :: rest

theorem eachReplaced_nil : EachReplaced [] := by
  simp [EachReplaced]

theorem eachReplaced_create (id : Nat) : EachReplaced [.create id] := by
  intro early disposed late split
  rcases List.append_eq_singleton_iff.mp split.symm with ⟨_, last⟩ | ⟨_, last⟩ <;> simp at last

theorem eachReplaced_replacement (old new : Nat) : EachReplaced [.dispose old, .create new] := by
  intro early disposed late split
  cases early with
  | nil =>
      simp only [List.nil_append, List.cons.injEq] at split
      exact ⟨new, [], split.2.symm⟩
  | cons call rest =>
      simp only [List.cons_append, List.cons.injEq] at split
      obtain ⟨next, more, last⟩ := eachReplaced_create new rest disposed late split.2
      exact ⟨next, more, last⟩

theorem eachReplaced_questions {questions : List EngineCall}
    (questioned : ∀ call ∈ questions, call.isQuestion = true) : EachReplaced questions := by
  intro early disposed late split
  have asked := questioned (.dispose disposed) (by simp [split])
  contradiction

theorem EachReplaced.append {first second : List EngineCall} (left : EachReplaced first)
    (right : EachReplaced second) : EachReplaced (first ++ second) := by
  intro early disposed late split
  rcases List.append_eq_append_iff.mp split with ⟨middle, rfl, inSecond⟩ | ⟨middle, inFirst, rest⟩
  · exact right middle disposed late inSecond
  · cases middle with
    | nil => exact right [] disposed late rest.symm
    | cons call more =>
        simp only [List.cons_append, List.cons.injEq] at rest
        obtain ⟨rfl, rfl⟩ := rest
        obtain ⟨next, tail, rfl⟩ := left early disposed more inFirst
        exact ⟨next, tail ++ second, rfl⟩

end EngineCall

/-- What is to be seen in a journal: engines come and go in turns, their numbers grow, and each is
asked only after it was created and never after it was disposed. -/
structure OrderlyJournal (calls : List EngineCall) : Prop where
  alternating : (calls.filterMap EngineCall.lifeEvent?).IsChain (· ≠ ·)
  first : (calls.filterMap EngineCall.lifeEvent?).head? ≠ some .disposal
  increasing : (calls.filterMap EngineCall.created?).Pairwise (· < ·)
  asked : ∀ before call after, calls = before ++ call :: after → call.isQuestion = true →
    EngineCall.create call.session ∈ before ∧ EngineCall.dispose call.session ∉ before

/-- A journal after which the given engine is alive, if any, and the numbers from `next` on have not
been used. -/
inductive Journal : List EngineCall → Option Nat → Nat → Prop where
  | empty (next : Nat) : Journal [] none next
  | create {calls : List EngineCall} {next : Nat} (before : Journal calls none next) :
      Journal (calls ++ [.create next]) (some next) (next + 1)
  | dispose {calls : List EngineCall} {id next : Nat} (before : Journal calls (some id) next) :
      Journal (calls ++ [.dispose id]) none next
  | ask {calls : List EngineCall} {call : EngineCall} {next : Nat}
      (before : Journal calls (some call.session) next) (question : call.isQuestion = true) :
      Journal (calls ++ [call]) (some call.session) next

namespace Journal

variable {calls : List EngineCall} {live : Option Nat} {next : Nat}

theorem session_lt (journal : Journal calls live next) :
    ∀ call ∈ calls, call.session < next := by
  -- Later calls go to the engine that is alive, so the induction carries a bound for its number too.
  have living : (∀ call ∈ calls, call.session < next) ∧ ∀ id, live = some id → id < next := by
    induction journal with
    | empty next => simp
    | create before ih =>
        rw [List.forall_mem_append, List.forall_mem_singleton]
        refine ⟨⟨?_, Nat.lt_succ_self _⟩, by simp⟩
        intro call early
        exact Nat.lt_succ_of_lt (ih.1 call early)
    | dispose before ih =>
        rw [List.forall_mem_append, List.forall_mem_singleton]
        exact ⟨⟨ih.1, ih.2 _ rfl⟩, by simp⟩
    | ask before question ih =>
        rw [List.forall_mem_append, List.forall_mem_singleton]
        exact ⟨⟨ih.1, ih.2 _ rfl⟩, ih.2⟩
  exact living.1

/-- The engine that is alive was created and not disposed. -/
theorem alive {id : Nat} (journal : Journal calls (some id) next) :
    EngineCall.create id ∈ calls ∧ EngineCall.dispose id ∉ calls := by
  generalize living : some id = live at journal
  induction journal with
  | empty next => contradiction
  | create before ih =>
      cases living
      refine ⟨by simp, ?_⟩
      intro disposed
      rcases List.mem_append.mp disposed with early | last
      · exact Nat.lt_irrefl _ (before.session_lt _ early)
      · simp at last
  | dispose before ih => contradiction
  | ask before question ih =>
      obtain ⟨created, notDisposed⟩ := ih living
      refine ⟨List.mem_append_left _ created, ?_⟩
      intro disposed
      rcases List.mem_append.mp disposed with early | last
      · exact notDisposed early
      · rw [← List.mem_singleton.mp last] at question
        contradiction

theorem increasing (journal : Journal calls live next) :
    (calls.filterMap EngineCall.created?).Pairwise (· < ·) := by
  induction journal with
  | empty next => exact .nil
  | create before ih =>
      rw [List.filterMap_append, List.pairwise_append]
      refine ⟨ih, List.pairwise_singleton _ _, ?_⟩
      intro early member late last
      obtain ⟨call, listed, created⟩ := List.mem_filterMap.mp member
      have small := before.session_lt call listed
      cases call <;> cases created
      rw [List.mem_singleton.mp last]
      exact small
  | dispose before ih => simpa [List.filterMap_cons, EngineCall.created?] using ih
  | ask before question ih =>
      simpa [EngineCall.created?_of_isQuestion question] using ih

/-- Creations and disposals take turns, and the last one was a creation where an engine is alive. -/
theorem alternating (journal : Journal calls live next) :
    (calls.filterMap EngineCall.lifeEvent?).IsChain (· ≠ ·) ∧
      (calls.filterMap EngineCall.lifeEvent?).head? ≠ some .disposal ∧
      ((calls.filterMap EngineCall.lifeEvent?).getLast? = some .creation ↔ live.isSome) := by
  induction journal with
  | empty next => simp
  | create before ih =>
      obtain ⟨chain, first, last⟩ := ih
      rw [List.filterMap_append]
      have turns := LifeEvent.turns_concat .creation chain first (by simpa using last) (by simp)
      exact ⟨turns.1, turns.2, by simp [EngineCall.lifeEvent?]⟩
  | dispose before ih =>
      obtain ⟨chain, first, last⟩ := ih
      have ending := last.mpr rfl
      rw [List.filterMap_append]
      have turns := LifeEvent.turns_concat .disposal chain first (by simp [ending])
        (by rintro - none; simp [none] at ending)
      exact ⟨turns.1, turns.2, by simp [EngineCall.lifeEvent?]⟩
  | ask before question ih =>
      simpa [EngineCall.lifeEvent?_of_isQuestion question] using ih

theorem asked_concat {last : EngineCall}
    (early : ∀ before call after, calls = before ++ call :: after → call.isQuestion = true →
      EngineCall.create call.session ∈ before ∧ EngineCall.dispose call.session ∉ before)
    (late : last.isQuestion = true →
      EngineCall.create last.session ∈ calls ∧ EngineCall.dispose last.session ∉ calls) :
    ∀ before call after, calls ++ [last] = before ++ call :: after → call.isQuestion = true →
      EngineCall.create call.session ∈ before ∧ EngineCall.dispose call.session ∉ before := by
  intro before call after split asks
  rcases List.eq_nil_or_concat after with rfl | ⟨inner, final, rfl⟩
  · obtain ⟨rfl, same⟩ := List.append_inj' split rfl
    cases same
    exact late asks
  · rw [List.concat_eq_append, ← List.cons_append, ← List.append_assoc] at split
    exact early before call inner (List.append_inj' split rfl).1 asks

theorem asked (journal : Journal calls live next) :
    ∀ before call after, calls = before ++ call :: after → call.isQuestion = true →
      EngineCall.create call.session ∈ before ∧ EngineCall.dispose call.session ∉ before := by
  induction journal with
  | empty next => simp
  | create earlier ih => exact asked_concat ih (by simp [EngineCall.isQuestion])
  | dispose earlier ih => exact asked_concat ih (by simp [EngineCall.isQuestion])
  | ask earlier question ih => exact asked_concat ih fun _ => earlier.alive

theorem orderly (journal : Journal calls live next) : OrderlyJournal calls where
  alternating := journal.alternating.1
  first := journal.alternating.2.1
  increasing := journal.increasing
  asked := journal.asked

theorem askAll {id : Nat} (journal : Journal calls (some id) next) {questions : List EngineCall}
    (questioned : ∀ call ∈ questions, call.isQuestion = true ∧ call.session = id) :
    Journal (calls ++ questions) (some id) next := by
  induction questions generalizing calls with
  | nil => simpa using journal
  | cons call rest ih =>
      obtain ⟨question, rfl⟩ := questioned call List.mem_cons_self
      have after := ih (journal.ask question) fun other member =>
        questioned other (List.mem_cons_of_mem _ member)
      simpa using after

end Journal

/-! ## Engines and tables -/

/-- The states of engines that were created and since then only asked. -/
inductive Engine.Working {E : Type} (maker : Engine E) : E → Prop where
  | create (options : CompilerOptions) : Working maker (maker.create options)
  | syntactic {engine : E} (before : Working maker engine) (host : EngineHost) (path : Path) :
      Working maker (maker.syntactic engine host path).2
  | semantic {engine : E} (before : Working maker engine) (host : EngineHost) (path : Path) :
      Working maker (maker.semantic engine host path).2
  | quickInfo {engine : E} (before : Working maker engine) (host : EngineHost) (path : Path)
      (offset : Nat) : Working maker (maker.quickInfo engine host path offset).2

/-- Some script has a state in both tables, and the two states differ in their dialect. -/
def Table.Redialects (before after : Table) : Prop :=
  ∃ path old new, before.snapshot? path = some old ∧ after.snapshot? path = some new ∧
    old.dialect ≠ new.dialect

/-- Whether a table has a script of a document under another dialect. -/
def Table.hasOtherDialect (table : Table) (doc : Document) : Prop :=
  ∃ dialect, table.dialect? doc.path = some dialect ∧ dialect ≠ doc.dialect

theorem Table.not_redialects (table : Table) : ¬ table.Redialects table := by
  rintro ⟨path, old, new, before, after, differ⟩
  rw [before] at after
  cases after
  contradiction

/-- The session with the present state of a document's script. -/
def ActiveSession.store {E : Type} (active : ActiveSession E) (doc : Document) : ActiveSession E :=
  { active with table := (active.table.put doc.path (Manager.nextSnapshot active.table doc)).2 }

namespace ActiveSession

variable {E : Type} {active : ActiveSession E} {doc : Document}

theorem snapshot?_store_of_ne {path : Path} (other : path.normalize ≠ doc.path.normalize) :
    (active.store doc).table.snapshot? path = active.table.snapshot? path := by
  simp only [store, Table.snapshot?_put, if_neg other.symm]

/-- Storing a document changes the dialect of a script if it was another one in the table. -/
theorem redialects_store_iff (consistent : active.table.Consistent) :
    active.table.Redialects (active.store doc).table ↔ active.table.hasOtherDialect doc := by
  constructor
  · rintro ⟨path, old, new, before, after, differ⟩
    simp only [store, Table.snapshot?_put] at after
    split at after
    · rename_i same
      cases after
      refine ⟨old.dialect, ?_, differ⟩
      rw [consistent doc.path, Table.snapshot?_congr same, before]
      rfl
    · rw [before] at after
      cases after
      contradiction
  · rintro ⟨dialect, stored, differ⟩
    rw [consistent doc.path] at stored
    obtain ⟨old, found, rfl⟩ := Option.map_eq_some_iff.mp stored
    refine ⟨doc.path, old, Manager.nextSnapshot active.table doc, found, ?_, differ⟩
    simp only [store, Table.snapshot?_put, if_pos]

end ActiveSession

namespace Manager

variable {E : Type} {maker : Engine E} {disk : Disk} {manager before after : Manager E}
  {doc : Document}

/-! ## What a call does -/

/-- A manager after a call that may have stored a document: engines were disposed only to be
replaced, and one was replaced exactly if the dialect of a script changed. Then the count of restarts
grew by one, and nothing else changed but the state of the document. -/
structure Stores (doc : Document) (before after : Manager E) : Prop where
  disposals : ∃ calls, after.calls = before.calls ++ calls ∧ EngineCall.EachReplaced calls
  sessions : ∀ old new, before.active = some old → after.active = some new →
    (old.session.id ≠ new.session.id ↔ old.table.Redialects new.table)
  restarts : ∀ old new, before.active = some old → after.active = some new →
    old.session.id ≠ new.session.id →
      after.restartCount = before.restartCount + 1 ∧ new.config = old.config ∧
      new.session.options = old.session.options ∧
      new.table.projectFiles = old.table.projectFiles ∧
      ∀ path, path.normalize ≠ doc.path.normalize →
        new.table.snapshot? path = old.table.snapshot? path
  otherwise : (∀ old new, before.active = some old → after.active = some new →
    old.session.id = new.session.id) → after.restartCount = before.restartCount

/-- A manager after a reset: the engine was disposed, if there was one. -/
structure Stops (before after : Manager E) : Prop where
  inactive : after.active = none
  disposal : after.calls = before.calls ++ (before.sessionId?.map EngineCall.dispose).toList
  restartCount : after.restartCount = before.restartCount

/-- What each call does to the engines and to the table. A question changes the table only if it
does not have the document's text and dialect. -/
def Step (before : Manager E) (call : SessionCall) (after : Manager E) : Prop :=
  match call with
  | .update doc => Stores doc before after
  | .diagnostics doc | .hover doc _ =>
      Stores doc before after ∧
        ∀ old, before.active = some old → old.table.Holds doc →
          ∃ new, after.active = some new ∧ new.table = old.table
  | .close _ => after = before
  | .reset => Stops before after

/-- What every manager keeps to. -/
structure Sound (maker : Engine E) (manager : Manager E) : Prop where
  journal : Journal manager.calls manager.sessionId? manager.nextSession
  consistent : ∀ active, manager.active = some active → active.table.Consistent
  working : ∀ active, manager.active = some active → maker.Working active.session.engine

theorem Sound.of_unused (inactive : manager.active = none) (unused : manager.calls = []) :
    manager.Sound maker where
  journal := by
    rw [unused, sessionId?, inactive]
    exact .empty _
  consistent active found := by simp [inactive] at found
  working active found := by simp [inactive] at found

theorem Sound.of_active {active : ActiveSession E} (found : manager.active = some active)
    (journal : Journal manager.calls (some active.session.id) manager.nextSession)
    (consistent : active.table.Consistent) (working : maker.Working active.session.engine) :
    manager.Sound maker where
  journal := by
    rw [sessionId?, found]
    exact journal
  consistent other same := by
    rw [found] at same
    cases same
    exact consistent
  working other same := by
    rw [found] at same
    cases same
    exact working

theorem Sound.journal_of_active (sound : manager.Sound maker) {active : ActiveSession E}
    (found : manager.active = some active) :
    Journal manager.calls (some active.session.id) manager.nextSession := by
  have journal := sound.journal
  rw [sessionId?, found] at journal
  exact journal

theorem Sound.session_lt (sound : manager.Sound maker) {active : ActiveSession E}
    (found : manager.active = some active) : active.session.id < manager.nextSession := by
  have journal := sound.journal_of_active found
  exact journal.session_lt _ journal.alive.1

/-! ## Activation and updates -/

theorem active_activate (maker : Engine E) (disk : Disk) (manager : Manager E) :
    (manager.activate maker disk).2.active = some (manager.activate maker disk).1 := by
  cases found : manager.active with
  | none => simp only [activate, found]
  | some active => rw [activate_of_active found, found]

theorem Sound.activate (disk : Disk) (sound : manager.Sound maker) :
    (manager.activate maker disk).2.Sound maker := by
  cases found : manager.active with
  | none =>
      have journal := sound.journal
      rw [sessionId?, found] at journal
      refine .of_active (active_activate maker disk manager) ?_ ?_ ?_
      · simp only [Manager.activate, found]
        exact journal.create
      · rw [activate_of_inactive found]
        exact Table.consistent_ofProjectFiles _
      · rw [activate_of_inactive found]
        exact .create _
  | some active =>
      rw [activate_of_active found]
      exact sound

/-- The manager after an update in which the engine goes on. -/
def stored (maker : Engine E) (disk : Disk) (manager : Manager E) (doc : Document) : Manager E :=
  { (manager.activate maker disk).2 with
    active := some ((manager.activate maker disk).1.store doc) }

/-- The manager after an update in which the engine is replaced. -/
def restarted (maker : Engine E) (disk : Disk) (manager : Manager E) (doc : Document) : Manager E :=
  (manager.activate maker disk).2.restart maker ((manager.activate maker disk).1.store doc)

/-- The dialect that the script had before decides what an update does. -/
theorem update_eq (maker : Engine E) (disk : Disk) (manager : Manager E) (doc : Document) :
    manager.update maker disk doc =
      match (manager.activate maker disk).1.table.dialect? doc.path with
      | none => (.created, manager.stored maker disk doc)
      | some dialect =>
          if dialect = doc.dialect then (.updated, manager.stored maker disk doc)
          else
            (.restarted (manager.activate maker disk).1.session.id
              (manager.activate maker disk).2.nextSession, manager.restarted maker disk doc) :=
  rfl

theorem update_or (maker : Engine E) (disk : Disk) (manager : Manager E) (doc : Document) :
    (¬ (manager.activate maker disk).1.table.hasOtherDialect doc ∧
        (manager.update maker disk doc).2 = manager.stored maker disk doc) ∨
      ((manager.activate maker disk).1.table.hasOtherDialect doc ∧
        (manager.update maker disk doc).2 = manager.restarted maker disk doc) := by
  rw [update_eq]
  unfold Table.hasOtherDialect
  cases (manager.activate maker disk).1.table.dialect? doc.path with
  | none => exact .inl ⟨by simp, rfl⟩
  | some dialect =>
      by_cases same : dialect = doc.dialect
      · exact .inl ⟨by simp [same], by simp only [if_pos same]⟩
      · exact .inr ⟨by simpa using same, by simp only [if_neg same]⟩

theorem Sound.update (disk : Disk) (doc : Document) (sound : manager.Sound maker) :
    (manager.update maker disk doc).2.Sound maker := by
  have started := sound.activate disk
  have found := active_activate maker disk manager
  have journal := started.journal_of_active found
  have working := started.working _ found
  have consistent : ((manager.activate maker disk).1.store doc).table.Consistent :=
    (started.consistent _ found).put
  rcases update_or maker disk manager doc with ⟨_, updated⟩ | ⟨_, updated⟩
  · rw [updated]
    exact .of_active rfl journal consistent working
  · rw [updated]
    refine .of_active rfl ?_ consistent (.create _)
    have replaced := journal.dispose.create
    rwa [List.append_assoc] at replaced

theorem Stores.refl (doc : Document) (manager : Manager E) : Stores doc manager manager where
  disposals := ⟨[], by simp, EngineCall.eachReplaced_nil⟩
  sessions old new foundOld foundNew := by
    rw [foundOld] at foundNew
    cases foundNew
    simp [old.table.not_redialects]
  restarts old new foundOld foundNew differ := by
    rw [foundOld] at foundNew
    cases foundNew
    contradiction
  otherwise _ := rfl

theorem stores_update (disk : Disk) (doc : Document) (sound : manager.Sound maker) :
    Stores doc manager (manager.update maker disk doc).2 := by
  cases found : manager.active with
  | none =>
      -- a session that has just started knows no dialect, so nothing is replaced
      have fresh : ¬ (manager.activate maker disk).1.table.hasOtherDialect doc := by
        rw [activate_of_inactive found]
        rintro ⟨dialect, known, _⟩
        simp [ActiveSession.start, Table.ofProjectFiles, Table.dialect?] at known
      rcases update_or maker disk manager doc with ⟨_, updated⟩ | ⟨other, _⟩
      · rw [updated]
        refine ⟨⟨[.create manager.nextSession], ?_, EngineCall.eachReplaced_create _⟩, ?_, ?_, ?_⟩
        · simp only [stored, activate, found]
        · intro old new foundOld
          simp [found] at foundOld
        · intro old new foundOld
          simp [found] at foundOld
        · simp [stored, activate, found]
      · contradiction
  | some active =>
      have consistent := sound.consistent active found
      have updates := update_or maker disk manager doc
      simp only [stored, restarted, activate_of_active found] at updates
      rcases updates with ⟨same, updated⟩ | ⟨other, updated⟩
      · rw [updated]
        refine ⟨⟨[], by simp, EngineCall.eachReplaced_nil⟩, ?_, ?_, fun _ => rfl⟩
        · rintro old new foundOld ⟨⟩
          cases found.symm.trans foundOld
          rw [ActiveSession.redialects_store_iff consistent]
          simp [same, ActiveSession.store]
        · rintro old new foundOld ⟨⟩ differ
          cases found.symm.trans foundOld
          exact absurd rfl differ
      · -- numbers are not used again: the new session differs from the old one
        have growing := sound.session_lt found
        rw [updated]
        refine ⟨⟨_, rfl, EngineCall.eachReplaced_replacement _ _⟩, ?_, ?_, ?_⟩
        · rintro old new foundOld ⟨⟩
          cases found.symm.trans foundOld
          rw [iff_true_right ((ActiveSession.redialects_store_iff consistent).mpr other)]
          exact Nat.ne_of_lt growing
        · rintro old new foundOld ⟨⟩ differ
          cases found.symm.trans foundOld
          exact ⟨rfl, rfl, rfl, rfl, fun path other => ActiveSession.snapshot?_store_of_ne other⟩
        · intro kept
          exact absurd (kept active _ found rfl) (Nat.ne_of_lt growing)

/-! ## Questions -/

/-- A manager after questions to the engine of its session. -/
structure Asks (maker : Engine E) (before after : Manager E) : Prop where
  questions : ∃ active engine calls, before.active = some active ∧
    after = { before with
      active := some (active.withEngine engine)
      calls := before.calls ++ calls } ∧
    (∀ call ∈ calls, call.isQuestion = true ∧ call.session = active.session.id) ∧
    (maker.Working active.session.engine → maker.Working engine)

theorem asks_diagnostics (maker : Engine E) (disk : Disk) (manager : Manager E) (doc : Document) :
    Asks maker (manager.sync maker disk doc) (manager.diagnostics maker disk doc).2 := by
  obtain ⟨active, found, _⟩ := sync_holds maker disk manager doc
  let host := active.host disk
  let path := doc.path.normalize
  let between := (maker.syntactic active.session.engine host path).2
  refine ⟨active, (maker.semantic between host path).2,
    [.syntactic active.session.id (host.version path),
      .semantic active.session.id (host.version path)], found, ?_, ?_, ?_⟩
  · simp only [diagnostics, activate_of_active found]
    rfl
  · simp [EngineCall.isQuestion, EngineCall.session]
  · intro working
    exact (working.syntactic host path).semantic host path

theorem asks_hover (maker : Engine E) (disk : Disk) (manager : Manager E) (doc : Document)
    (position : Text.Position) :
    Asks maker (manager.sync maker disk doc) (manager.hover maker disk doc position).2 := by
  obtain ⟨active, found, _⟩ := sync_holds maker disk manager doc
  by_cases inside : doc.contains position = true
  · let host := active.host disk
    let path := doc.path.normalize
    let offset := doc.offsetAt position
    refine ⟨active, (maker.quickInfo active.session.engine host path offset).2,
      [.quickInfo active.session.id offset], found, ?_, ?_, ?_⟩
    · simp only [hover, inside, if_true, activate_of_active found]
      split <;> rfl
    · simp [EngineCall.isQuestion, EngineCall.session]
    · intro working
      exact working.quickInfo host path offset
  · refine ⟨active, active.session.engine, [], found, ?_, by simp, id⟩
    simp only [hover, inside, List.append_nil, ActiveSession.withEngine]
    rw [← found]
    rfl

theorem Sound.asks (sound : before.Sound maker) (asks : Asks maker before after) :
    after.Sound maker := by
  obtain ⟨active, engine, calls, found, rfl, questions, keeps⟩ := asks.questions
  exact .of_active rfl ((sound.journal_of_active found).askAll questions)
    (sound.consistent active found) (keeps (sound.working active found))

theorem Stores.asks {between : Manager E} (stores : Stores doc before between)
    (asks : Asks maker between after) : Stores doc before after := by
  obtain ⟨active, engine, asked, found, rfl, questions, _⟩ := asks.questions
  obtain ⟨calls, journal, replaced⟩ := stores.disposals
  refine ⟨⟨calls ++ asked, by simp [journal], ?_⟩, ?_, ?_, ?_⟩
  · refine replaced.append (EngineCall.eachReplaced_questions ?_)
    intro call member
    exact (questions call member).1
  · rintro old new foundOld ⟨⟩
    exact stores.sessions old active foundOld found
  · rintro old new foundOld ⟨⟩ differ
    exact stores.restarts old active foundOld found differ
  · intro kept
    refine stores.otherwise ?_
    intro old new foundOld foundNew
    cases found.symm.trans foundNew
    exact kept old (active.withEngine engine) foundOld rfl

theorem Sound.sync (disk : Disk) (doc : Document) (sound : manager.Sound maker) :
    (manager.sync maker disk doc).Sound maker := by
  unfold Manager.sync
  split
  · exact sound
  · exact sound.update disk doc

theorem stores_sync (disk : Disk) (doc : Document) (sound : manager.Sound maker) :
    Stores doc manager (manager.sync maker disk doc) := by
  unfold Manager.sync
  split
  · exact .refl doc manager
  · exact stores_update disk doc sound

/-- A document that a session has is not stored again. -/
theorem sync_of_holds {active : ActiveSession E} (found : manager.active = some active)
    (holds : active.table.Holds doc) : manager.sync maker disk doc = manager := by
  obtain ⟨snapshot, stored, dialect, text⟩ := holds
  have current : manager.isCurrent doc = true := by
    simp [isCurrent, stored?, found, stored, dialect, text]
  rw [sync, if_pos current]

/-- Questions keep to the rules if they are asked about a synced document. -/
theorem step_question (sound : manager.Sound maker)
    (asks : Asks maker (manager.sync maker disk doc) after) :
    Stores doc manager after ∧
      ∀ old, manager.active = some old → old.table.Holds doc →
        ∃ new, after.active = some new ∧ new.table = old.table := by
  refine ⟨(stores_sync disk doc sound).asks asks, ?_⟩
  intro old found holds
  rw [sync_of_holds found holds] at asks
  obtain ⟨same, engine, calls, foundSame, rfl, _, _⟩ := asks.questions
  cases found.symm.trans foundSame
  exact ⟨old.withEngine engine, rfl, rfl⟩

/-! ## Runs -/

theorem stops_reset (manager : Manager E) : Stops manager manager.reset := by
  unfold reset
  cases found : manager.active with
  | none => exact ⟨found, by simp [sessionId?, found], rfl⟩
  | some active => exact ⟨rfl, by simp [sessionId?, found], rfl⟩

theorem Sound.reset (sound : manager.Sound maker) : manager.reset.Sound maker := by
  cases found : manager.active with
  | none =>
      simp only [Manager.reset, found]
      exact sound
  | some active =>
      simp only [Manager.reset, found]
      exact ⟨(sound.journal_of_active found).dispose, by simp, by simp⟩

theorem Sound.perform (sound : manager.Sound maker) (call : Disk × SessionCall) :
    (manager.perform maker call).Sound maker := by
  obtain ⟨disk, call⟩ := call
  cases call with
  | update doc => exact sound.update disk doc
  | diagnostics doc => exact (sound.sync disk doc).asks (asks_diagnostics maker disk manager doc)
  | hover doc position =>
      exact (sound.sync disk doc).asks (asks_hover maker disk manager doc position)
  | close doc => exact sound
  | reset => exact sound.reset

theorem Sound.performAll (sound : manager.Sound maker) (calls : List (Disk × SessionCall)) :
    (manager.performAll maker calls).Sound maker := by
  induction calls generalizing manager with
  | nil => exact sound
  | cons call rest ih => exact ih (sound.perform call)

theorem Sound.step (sound : manager.Sound maker) (disk : Disk) (call : SessionCall) :
    Step manager call (manager.perform maker (disk, call)) := by
  cases call with
  | update doc => exact stores_update disk doc sound
  | diagnostics doc => exact step_question sound (asks_diagnostics maker disk manager doc)
  | hover doc position => exact step_question sound (asks_hover maker disk manager doc position)
  | close doc => rfl
  | reset => exact stops_reset manager

/-- The life of engines. After every run of calls on a manager, whatever its engines are and however
the disk changes, the journal is orderly and the engine at hand was never disposed; and every further
call replaces the engine exactly if it changes the dialect of a script. -/
theorem engines_live_in_turn (maker : Engine E) (start : Manager E)
    (inactive : start.active = none) (unused : start.calls = [])
    (run : List (Disk × SessionCall)) :
    OrderlyJournal (start.performAll maker run).calls ∧
      (∀ active, (start.performAll maker run).active = some active →
        maker.Working active.session.engine) ∧
      ∀ disk call, Step (start.performAll maker run) call
        ((start.performAll maker run).perform maker (disk, call)) := by
  have sound : (start.performAll maker run).Sound maker :=
    (Sound.of_unused inactive unused).performAll run
  exact ⟨sound.journal.orderly, sound.working, sound.step⟩

private def looseScript : Document :=
  .ofBounds (Path.ofText "/a.html") usingText.toList 0 7 4 ∅

private def strictScript : Document :=
  .ofBounds (Path.ofText "/x/../a.html") misfitText.toList 0 29 1
    ((∅ : Attributes).insert "lang" "ts")

/-- A question that changes a dialect, a reset, and another question. -/
private def turbulentRun : List (Disk × SessionCall) :=
  [(scriptDisk, .update looseScript), (scriptDisk, .diagnostics strictScript),
    (scriptDisk, .reset), (scriptDisk, .hover looseScript ⟨0, 6⟩)]

private def afterTurbulence : Manager ScriptEngine :=
  (ofConfig { root := Path.root }).performAll (scriptEngine scriptParser) turbulentRun

theorem engines_live_in_turn_turbulentRun :
    afterTurbulence.calls =
        [.create 1, .dispose 1, .create 2, .syntactic 2 "5", .semantic 2 "5", .dispose 2, .create 3,
          .quickInfo 3 6] ∧
      OrderlyJournal afterTurbulence.calls ∧
      Step afterTurbulence (.update strictScript)
        (afterTurbulence.perform (scriptEngine scriptParser) (scriptDisk, .update strictScript)) := by
  obtain ⟨orderly, _, step⟩ := engines_live_in_turn (scriptEngine scriptParser)
    (ofConfig { root := Path.root }) rfl rfl turbulentRun
  exact ⟨by decide +kernel, orderly, step scriptDisk (.update strictScript)⟩

end Manager

end InlineScript
