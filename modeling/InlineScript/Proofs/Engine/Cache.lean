import InlineScript.Engine.Script
import InlineScript.Proofs.Path.NormalForm

/-!
The files that an engine keeps, along any sequence of questions. The hosts that come with the questions
may disagree about everything. What a question can do to the kept files is said once; that kinds are
pinned, that kept texts were read from a host, and that nothing comes back behind a disposal is derived
from it.
-/

namespace InlineScript.ScriptEngine

/-! ## Calls -/

inductive Question where
  | syntactic
  | semantic
  | quickInfo (offset : Nat)

inductive Reply where
  | findings (found : List Finding)
  | info (known : Option QuickInfo)

/-- A question about a file, with the host that is there to answer from. -/
structure Query where
  host : EngineHost
  path : Path
  question : Question

namespace Query

def version (query : Query) : String :=
  query.host.version query.path

def text? (query : Query) : Option String :=
  query.host.text? query.path

def put (parser : Parser) (engine : ScriptEngine) (query : Query) :
    Except EngineFault Reply × ScriptEngine :=
  match query.question with
  | .syntactic =>
      (syntactic parser engine query.host query.path).map (Except.map .findings) id
  | .semantic =>
      (semantic parser engine query.host query.path).map (Except.map .findings) id
  | .quickInfo offset =>
      (quickInfo parser engine query.host query.path offset).map (Except.map .info) id

end Query

inductive Call where
  | put (query : Query)
  | dispose

def perform (parser : Parser) (engine : ScriptEngine) : Call → ScriptEngine
  | .put query => (query.put parser engine).2
  | .dispose => engine.dispose

def performAll (parser : Parser) (engine : ScriptEngine) (calls : List Call) : ScriptEngine :=
  calls.foldl (perform parser) engine

def queriesOf (calls : List Call) : List Query :=
  calls.filterMap fun
    | .put query => some query
    | .dispose => none

variable {parser : Parser} {engine : ScriptEngine} {host : EngineHost} {path other : Path}
  {file : SourceFile} {query : Query}

/-! ## One question -/

theorem files_keep (engine : ScriptEngine) (path : Path) (file : SourceFile) (other : Path) :
    (engine.keep path file).files[other]? =
      if path.same other then some file else engine.files[other]? := by
  simp only [keep, Std.TreeMap.getElem?_insert, Path.order_eq_iff_same]

theorem files_keep_self (engine : ScriptEngine) (path : Path) (file : SourceFile) :
    (engine.keep path file).files[path]? = some file := by
  rw [files_keep, Path.same, if_pos (beq_self_eq_true _)]

theorem files_congr (engine : ScriptEngine) (same : path.same other = true) :
    engine.files[path]? = engine.files[other]? :=
  Std.TreeMap.getElem?_congr (Path.order_eq_iff_same.mpr same)

/-- A file that an engine answers from: it is kept already, or has the text that the host reports and
the kind of the one that is kept, if any. -/
structure AnswersFrom (engine : ScriptEngine) (host : EngineHost) (path : Path) (file : SourceFile) :
    Prop where
  version : file.version = host.version path
  origin : engine.files[path]? = some file ∨
    host.text? path = some file.text ∧
      ∀ kept, engine.files[path]? = some kept → file.kind = kept.kind

theorem of_parsed {kind : ScriptKind} (found : parsed parser host path kind = .ok file) :
    file.version = host.version path ∧ file.kind = kind ∧ host.text? path = some file.text := by
  unfold parsed at found
  split at found
  next text known =>
    cases found
    exact ⟨rfl, rfl, known⟩
  next => contradiction

theorem answersFrom_of_current (found : current parser engine host path = .ok file) :
    engine.AnswersFrom host path file := by
  unfold current at found
  split at found
  next => contradiction
  next =>
    split at found
    next =>
      split at found
      next kept cached =>
        split at found
        next fresh =>
          cases found
          exact ⟨fresh, .inl cached⟩
        next =>
          obtain ⟨version, kind, text⟩ := of_parsed found
          refine ⟨version, .inr ⟨text, ?_⟩⟩
          intro other sameCached
          rw [kind, Option.some.inj (cached.symm.trans sameCached)]
      next uncached =>
        obtain ⟨version, -, text⟩ := of_parsed found
        exact ⟨version, .inr ⟨text, by simp [uncached]⟩⟩
    next => contradiction

/-- A question gets no answer and changes nothing, or it is answered from a file, which is kept. -/
def Settles (engine : ScriptEngine) (host : EngineHost) (path : Path)
    (result : Except EngineFault Reply × ScriptEngine) : Prop :=
  (∃ fault, result = (.error fault, engine)) ∨
    ∃ reply file, result = (.ok reply, engine.keep path file) ∧ engine.AnswersFrom host path file

theorem Settles.eq_of_error {result : Except EngineFault Reply × ScriptEngine} {fault : EngineFault}
    (settles : engine.Settles host path result) (failed : result.1 = .error fault) :
    result.2 = engine := by
  rcases settles with ⟨_, rfl⟩ | ⟨_, _, rfl, _⟩
  · rfl
  · contradiction

theorem Settles.exists_of_ok {result : Except EngineFault Reply × ScriptEngine} {reply : Reply}
    (settles : engine.Settles host path result) (answered : result.1 = .ok reply) :
    ∃ file, result.2 = engine.keep path file ∧ engine.AnswersFrom host path file := by
  rcases settles with ⟨_, rfl⟩ | ⟨_, file, rfl, answers⟩
  · contradiction
  · exact ⟨file, rfl, answers⟩

theorem settles_ask {α : Type} (parser : Parser) (engine : ScriptEngine) (host : EngineHost)
    (path : Path) (answer : SourceFile → α) (reply : α → Reply) :
    engine.Settles host path ((ask parser engine host path answer).map (Except.map reply) id) := by
  unfold ask
  cases found : current parser engine host path with
  | error fault => exact .inl ⟨fault, rfl⟩
  | ok file => exact .inr ⟨reply (answer file), file, rfl, answersFrom_of_current found⟩

theorem Query.settles_put (parser : Parser) (engine : ScriptEngine) (query : Query) :
    engine.Settles query.host query.path (query.put parser engine) := by
  obtain ⟨host, path, question⟩ := query
  cases question with
  | syntactic => exact settles_ask parser engine host path Check.syntactic .findings
  | semantic =>
      exact settles_ask parser engine host path
        (fun file => Check.semantic (host.resolve file.path) file) .findings
  | quickInfo offset =>
      exact settles_ask parser engine host path (fun file => file.quickInfo? offset) .info

/-- An engine that is not disposed of answers questions about listed files that have a text. -/
theorem Query.exists_put_ok (live : engine.isDisposed = false)
    (listed : query.host.names.any query.path.same = true) (present : query.text?.isSome = true) :
    ∃ reply, (query.put parser engine).1 = .ok reply := by
  obtain ⟨text, found⟩ := Option.isSome_iff_exists.mp present
  have reads (kind : ScriptKind) : ∃ file, parsed parser query.host query.path kind = .ok file :=
    ⟨_, by rw [parsed, show query.host.text? query.path = some text from found]⟩
  have takes : ∃ file, current parser engine query.host query.path = .ok file := by
    rw [current, live, if_neg Bool.false_ne_true, if_pos listed]
    split
    · split
      · exact ⟨_, rfl⟩
      · exact reads _
    · exact reads _
  obtain ⟨file, current⟩ := takes
  obtain ⟨host, path, question⟩ := query
  cases question <;>
    simp [put, syntactic, semantic, quickInfo, ask, current, Except.map]

theorem Query.put_of_disposed (disposed : engine.isDisposed = true) :
    query.put parser engine = (.error .disposed, engine) := by
  obtain ⟨host, path, question⟩ := query
  cases question <;>
    simp [put, syntactic, semantic, quickInfo, ask, current, disposed, Except.map]

/-- What each question preserves, calls without a disposal preserve. -/
theorem performAll_of_live {holds : ScriptEngine → Prop} {calls : List Call}
    (preserved : ∀ engine query, holds engine → holds (Query.put parser engine query).2)
    (live : .dispose ∉ calls) (start : holds engine) : holds (performAll parser engine calls) := by
  induction calls generalizing engine with
  | nil => exact start
  | cons call rest ih =>
      have restLive : .dispose ∉ rest := fun listed => live (List.mem_cons_of_mem _ listed)
      cases call with
      | dispose => exact absurd List.mem_cons_self live
      | put query => exact ih restLive (preserved engine query start)

/-! ## Kinds -/

/-- Whether all files that one engine keeps are kept by another one as the same kind. -/
def Pins (before after : ScriptEngine) : Prop :=
  ∀ (path : Path) (file : SourceFile), before.files[path]? = some file →
    ∃ later, after.files[path]? = some later ∧ later.kind = file.kind

theorem Pins.refl (engine : ScriptEngine) : engine.Pins engine :=
  fun _ file cached => ⟨file, cached, rfl⟩

theorem Pins.trans {before middle after : ScriptEngine} (first : before.Pins middle)
    (second : middle.Pins after) : before.Pins after := by
  intro path file cached
  obtain ⟨next, nextCached, sameKind⟩ := first path file cached
  obtain ⟨later, laterCached, laterKind⟩ := second path next nextCached
  exact ⟨later, laterCached, laterKind.trans sameKind⟩

theorem Query.put_pins (parser : Parser) (engine : ScriptEngine) (query : Query) :
    engine.Pins (query.put parser engine).2 := by
  rcases query.settles_put parser engine with ⟨fault, put⟩ | ⟨reply, file, put, answers⟩
  · rw [put]
    exact .refl engine
  · rw [put]
    intro path kept cached
    rw [files_keep]
    split
    next same =>
      -- other spellings of the path share its entry
      rw [← files_congr engine same] at cached
      refine ⟨file, rfl, ?_⟩
      cases answers.origin with
      | inl cachedFile => rw [Option.some.inj (cachedFile.symm.trans cached)]
      | inr read => exact read.2 kept cached
    next => exact ⟨kept, cached, rfl⟩

theorem performAll_pins (engine : ScriptEngine) {calls : List Call} (live : .dispose ∉ calls) :
    engine.Pins (performAll parser engine calls) :=
  performAll_of_live (fun _ query pins => pins.trans (query.put_pins parser _)) live (.refl engine)

/-! ## Disposal -/

theorem Query.isDisposed_put (parser : Parser) (engine : ScriptEngine) (query : Query) :
    (query.put parser engine).2.isDisposed = engine.isDisposed := by
  rcases query.settles_put parser engine with ⟨_, put⟩ | ⟨_, _, put, _⟩
  · rw [put]
  · rw [put]
    rfl

theorem isDisposed_performAll (engine : ScriptEngine) {calls : List Call} (live : .dispose ∉ calls) :
    (performAll parser engine calls).isDisposed = engine.isDisposed := by
  refine @performAll_of_live _ engine (fun later => later.isDisposed = engine.isDisposed) _ ?_ live rfl
  intro later query same
  exact (query.isDisposed_put parser later).trans same

/-- An engine that was disposed of: it keeps nothing. -/
structure Emptied (engine : ScriptEngine) : Prop where
  disposed : engine.isDisposed = true
  files : engine.files = ∅

theorem Emptied.perform (emptied : engine.Emptied) (call : Call) :
    (engine.perform parser call).Emptied := by
  cases call with
  | dispose => exact ⟨rfl, rfl⟩
  | put query => rw [ScriptEngine.perform, Query.put_of_disposed emptied.disposed]; exact emptied

theorem Emptied.performAll (emptied : engine.Emptied) (calls : List Call) :
    (engine.performAll parser calls).Emptied := by
  induction calls generalizing engine with
  | nil => exact emptied
  | cons call rest ih => exact ih (emptied.perform call)

theorem emptied_of_mem (engine : ScriptEngine) {calls : List Call} (disposed : .dispose ∈ calls) :
    (engine.performAll parser calls).Emptied := by
  obtain ⟨before, after, rfl⟩ := List.append_of_mem disposed
  rw [ScriptEngine.performAll, List.foldl_append, List.foldl_cons]
  exact Emptied.performAll ⟨rfl, rfl⟩ after

/-! ## Texts -/

/-- Whether a file has the version and the text that the host of one of the questions about it
reported. -/
def WasReported (queries : List Query) (path : Path) (file : SourceFile) : Prop :=
  ∃ query ∈ queries, query.path.same path = true ∧ query.version = file.version ∧
    query.text? = some file.text

def KeepsReported (queries : List Query) (engine : ScriptEngine) : Prop :=
  ∀ (path : Path) (file : SourceFile), engine.files[path]? = some file →
    WasReported queries path file

theorem KeepsReported.put {queries : List Query} (reported : engine.KeepsReported queries)
    (query : Query) : (query.put parser engine).2.KeepsReported (queries ++ [query]) := by
  have earlier (path : Path) (file : SourceFile) (cached : engine.files[path]? = some file) :
      WasReported (queries ++ [query]) path file := by
    obtain ⟨first, listed, rest⟩ := reported path file cached
    exact ⟨first, List.mem_append_left _ listed, rest⟩
  rcases query.settles_put parser engine with ⟨fault, put⟩ | ⟨reply, file, put, answers⟩
  · rw [put]
    exact earlier
  · rw [put]
    intro path kept cached
    rw [files_keep] at cached
    split at cached
    next same =>
      cases cached
      cases answers.origin with
      | inl cachedFile => exact earlier path file ((files_congr engine same).symm.trans cachedFile)
      | inr read =>
          exact ⟨query, List.mem_append_right _ List.mem_cons_self, same, answers.version.symm, read.1⟩
    next => exact earlier path kept cached

theorem KeepsReported.performAll {queries : List Query} (reported : engine.KeepsReported queries)
    (calls : List Call) :
    (engine.performAll parser calls).KeepsReported (queries ++ queriesOf calls) := by
  induction calls generalizing engine queries with
  | nil => simpa [queriesOf, ScriptEngine.performAll] using reported
  | cons call rest ih =>
      cases call with
      | dispose =>
          have nothing : engine.dispose.KeepsReported queries := by
            intro path file cached
            simp [ScriptEngine.dispose] at cached
          exact ih nothing
      | put query =>
          have whole : queries ++ queriesOf (.put query :: rest) =
              queries ++ [query] ++ queriesOf rest := by simp [queriesOf]
          rw [whole]
          exact ih (reported.put query)

/-- Whether the texts that are reported with one version of a path agree. -/
def TextsAgree (agree : Option String → Option String → Prop) (queries : List Query) : Prop :=
  ∀ first ∈ queries, ∀ second ∈ queries, first.path.same second.path = true →
    first.version = second.version → agree first.text? second.text?

/-- The text of a file with the version that a question's host reports agrees with the text that it
reports. -/
theorem TextsAgree.text {agree : Option String → Option String → Prop} {queries : List Query}
    (agreed : TextsAgree agree queries) (listed : query ∈ queries)
    (reported : WasReported queries query.path file) (version : file.version = query.version) :
    agree (some file.text) query.text? := by
  obtain ⟨first, firstListed, same, firstVersion, text⟩ := reported
  rw [← text]
  exact agreed first firstListed query listed same (firstVersion.trans version)

/-! ## Any sequence of calls -/

/-- A question that gets no answer leaves the engine as it was. One that gets an answer changes no other
entry than that of its path, which has the version that the host reports then. If no version is reported
with two texts, it has the text that the host reports as well; only where the host reports none is the
entry the one that was kept, and there is no such place if a version has a text whenever it had one.
Questions about listed files with a text are answered until the engine is disposed of, and the kind of a
kept file stays until then. From then on nothing is kept and no question is answered. -/
theorem cache_discipline (parser : Parser) (options : CompilerOptions) (calls : List Call)
    (query : Query) :
    let engine := performAll parser (create options) calls
    let result := query.put parser engine
    let queries := queriesOf calls ++ [query]
    (∀ fault, result.1 = .error fault → result.2 = engine) ∧
    (∀ reply, result.1 = .ok reply →
      (∀ path : Path, query.path.same path = false → result.2.files[path]? = engine.files[path]?) ∧
      ∃ file, result.2.files[query.path]? = some file ∧ file.version = query.version ∧
        (TextsAgree (fun first second => ∀ text ∈ first, ∀ other ∈ second, text = other) queries →
          query.text? = some file.text ∨
            query.text? = none ∧ engine.files[query.path]? = some file) ∧
        (TextsAgree (fun first second => first = second) queries → query.text? = some file.text)) ∧
    (.dispose ∉ calls → query.host.names.any query.path.same = true → query.text?.isSome = true →
      ∃ reply, result.1 = .ok reply) ∧
    (∀ later, .dispose ∉ later → engine.Pins (performAll parser engine later)) ∧
    (.dispose ∈ calls → engine.files = ∅ ∧ result = (.error .disposed, engine)) := by
  intro engine result queries
  have reported : engine.KeepsReported (queriesOf calls) := by
    have nothing : (create options).KeepsReported [] := by
      intro path file cached
      simp [create] at cached
    exact nothing.performAll calls
  have settles := query.settles_put parser engine
  refine ⟨fun _ => settles.eq_of_error, ?_, ?_, fun later => performAll_pins engine, ?_⟩
  · intro reply answered
    obtain ⟨file, next, answers⟩ := settles.exists_of_ok answered
    have cached : result.2.files[query.path]? = some file := by rw [next, files_keep_self]
    have wasReported : WasReported queries query.path file := reported.put query query.path file cached
    have listed : query ∈ queries := List.mem_append_right _ List.mem_cons_self
    refine ⟨?_, file, cached, answers.version, ?_, ?_⟩
    · intro path different
      rw [next, files_keep, different, if_neg Bool.false_ne_true]
    · intro agreed
      have sameText := agreed.text listed wasReported answers.version file.text rfl
      cases text : query.text? with
      | some present => exact .inl (by rw [sameText present text])
      | none =>
          -- without a text the file cannot have been parsed now
          refine .inr ⟨rfl, answers.origin.resolve_right ?_⟩
          rintro ⟨read, -⟩
          cases text.symm.trans read
    · intro agreed
      exact (agreed.text listed wasReported answers.version).symm
  · intro live listed present
    exact Query.exists_put_ok (isDisposed_performAll (create options) live) listed present
  · intro disposed
    have emptied : engine.Emptied := emptied_of_mem (create options) disposed
    exact ⟨emptied.files, Query.put_of_disposed emptied.disposed⟩

end InlineScript.ScriptEngine
