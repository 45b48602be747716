import InlineScript.Disk.Tree
import InlineScript.Proofs.Check.Order
import InlineScript.Proofs.Session.Coherence
import InlineScript.Proofs.Tree.Written

/-!
What a session has learnt from earlier questions shows in none of its answers: after every run of
calls it says about a document what a new engine says, and it is never at a loss for an answer.
-/

namespace InlineScript

/-! ## Questions to an engine -/

namespace SourceFile

variable (file : SourceFile) (resolve : List String → List (Option Module.Resolved))

/-- The problems of a file in the order in which they are told. -/
def problems : List Finding :=
  Finding.sort (Check.syntactic file) ++ Finding.sort (Check.semantic resolve file)

/-- The errors of parsing as they are collected. -/
def parsingProblems : List Finding :=
  file.tree.elim [] fun root =>
    if root.info.hasError then Check.errorsIn file.cuts root else []

/-- The problems of meaning as they are collected. -/
def meaningProblems : List Finding :=
  file.tree.elim [] fun root =>
    Check.unresolvedImports file.cuts resolve root ++ Check.redeclarations file.cuts root
      ++ if file.isTyped then Check.mismatches file.cuts root else []

/-- What is told has both kinds of problems one after the other, each by their place. -/
theorem problems_eq :
    file.problems resolve =
      Finding.sort file.parsingProblems ++ Finding.sort (file.meaningProblems resolve) := by
  unfold problems parsingProblems meaningProblems Check.syntactic Check.semantic
  cases file.tree with
  | none => rfl
  | some root => simp only [Finding.sort_sort, Option.elim_some]

theorem problems_perm :
    (file.problems resolve).Perm (file.parsingProblems ++ file.meaningProblems resolve) := by
  rw [problems_eq]
  exact (Finding.sort_perm _).append (Finding.sort_perm _)

end SourceFile

namespace Engine

variable {E : Type} (maker : Engine E) (engine : E) (host : EngineHost) (doc : Document)

/-- What an engine says is wrong with a document, or why it says nothing. -/
def diagnosticsOf : Except EngineFault (List Diagnostic) := do
  let (syntactic, next) := maker.syntactic engine host doc.path.normalize
  let (semantic, _) := maker.semantic next host doc.path.normalize
  let found := Finding.sort (← syntactic) ++ Finding.sort (← semantic)
  return found.map (doc.diagnostic doc.dialect)

/-- What an engine says about a position of a document, or why it says nothing. It is only asked
about positions in the script. -/
def hoverOf (position : Text.Position) : Except EngineFault (Option Hover) :=
  if doc.contains position then do
    let info ← (maker.quickInfo engine host doc.path.normalize (doc.offsetAt position)).1
    return info.map (doc.hover doc.dialect)
  else
    return none

end Engine

namespace Document

variable (parser : Parser) (doc : Document)

/-- What is wrong with a document whose imports mean the given files. -/
def diagnosticsWith (resolve : List String → List (Option Module.Resolved)) : List Diagnostic :=
  ((doc.source parser "0").problems resolve).map (doc.diagnostic doc.dialect)

theorem diagnosticsWith_perm (resolve : List String → List (Option Module.Resolved)) :
    (doc.diagnosticsWith parser resolve).Perm
      (((doc.source parser "0").parsingProblems ++
        (doc.source parser "0").meaningProblems resolve).map (doc.diagnostic doc.dialect)) :=
  (SourceFile.problems_perm _ _).map _

/-- What is known about a position of a document. -/
def hoverAt (position : Text.Position) : Option Hover :=
  if doc.contains position then
    ((doc.source parser "0").quickInfo? (doc.offsetAt position)).map (doc.hover doc.dialect)
  else
    none

end Document

namespace ScriptEngine.Coherent

variable {parser : Parser} {disk : Disk} {table : Table} {engine : ScriptEngine}
  {config : Project.Config} {doc : Document}

/-- Both questions about the problems of a stored document are answered from its script. -/
theorem answers (disk : Disk) (config : Project.Config) (coherent : engine.Coherent parser table) (consistent : table.Consistent)
    (holds : table.Holds doc) :
    ∃ between last : ScriptEngine, last.Coherent parser table ∧
      (scriptEngine parser).syntactic engine (table.host disk config) doc.path.normalize =
        (.ok (Check.syntactic (doc.source parser "0")), between) ∧
      (scriptEngine parser).semantic between (table.host disk config) doc.path.normalize =
        (.ok (Check.semantic ((table.host disk config).resolve doc.path.normalize)
          (doc.source parser "0")), last) := by
  obtain ⟨between, betweenCoherent, first⟩ :=
    coherent.ask_eq disk config consistent holds Check.syntactic
  obtain ⟨last, lastCoherent, second⟩ :=
    betweenCoherent.ask_eq disk config consistent holds
      fun file => Check.semantic ((table.host disk config).resolve file.path) file
  exact ⟨between, last, lastCoherent, first, second⟩

theorem diagnosticsOf_eq (coherent : engine.Coherent parser table) (consistent : table.Consistent)
    (holds : table.Holds doc) :
    (scriptEngine parser).diagnosticsOf engine (table.host disk config) doc =
      .ok (doc.diagnosticsWith parser ((table.host disk config).resolve doc.path.normalize)) := by
  obtain ⟨between, last, _, first, second⟩ :=
    coherent.answers disk config consistent holds
  simp only [Engine.diagnosticsOf, first, second]
  rfl

theorem quickInfo_eq (disk : Disk) (config : Project.Config) (coherent : engine.Coherent parser table) (consistent : table.Consistent)
    (holds : table.Holds doc) (offset : Nat) :
    ∃ last : ScriptEngine, last.Coherent parser table ∧
      (scriptEngine parser).quickInfo engine (table.host disk config) doc.path.normalize offset =
        (.ok ((doc.source parser "0").quickInfo? offset), last) :=
  coherent.ask_eq disk config consistent holds fun file => file.quickInfo? offset

theorem hoverOf_eq (coherent : engine.Coherent parser table) (consistent : table.Consistent)
    (holds : table.Holds doc) (position : Text.Position) :
    (scriptEngine parser).hoverOf engine (table.host disk config) doc position =
      .ok (doc.hoverAt parser position) := by
  unfold Engine.hoverOf Document.hoverAt
  split
  · obtain ⟨last, _, answer⟩ := coherent.quickInfo_eq disk config consistent holds
      (doc.offsetAt position)
    simp only [answer]
    rfl
  · rfl

end ScriptEngine.Coherent

namespace Manager

/-! ## Questions to a manager -/

section

variable {E : Type} {maker : Engine E} {disk : Disk} {manager : Manager E} {doc : Document}

theorem version_of_active {active : ActiveSession E} (found : manager.active = some active)
    (path : Path) : manager.version path = active.table.version path := by
  simp only [version, found]

theorem version_diagnostics (path : Path) :
    (manager.diagnostics maker disk doc).2.version path =
      (manager.sync maker disk doc).version path := by
  obtain ⟨active, found, _⟩ := sync_holds maker disk manager doc
  simp only [diagnostics, activate_of_active found, version_of_active found]
  rfl

theorem version_hover (position : Text.Position) (path : Path) :
    (manager.hover maker disk doc position).2.version path =
      (manager.sync maker disk doc).version path := by
  obtain ⟨active, found, _⟩ := sync_holds maker disk manager doc
  unfold hover
  split
  · simp only [activate_of_active found, version_of_active found]
    split <;> rfl
  · rfl

theorem VersionsBelow.diagnostics {bound : Nat} (below : manager.VersionsBelow bound)
    (requested : doc.version ≤ bound) :
    (manager.diagnostics maker disk doc).2.VersionsBelow (bound + 1) := by
  intro path
  rw [version_diagnostics]
  exact below.sync requested path

theorem VersionsBelow.hover {bound : Nat} (below : manager.VersionsBelow bound)
    (requested : doc.version ≤ bound) (position : Text.Position) :
    (manager.hover maker disk doc position).2.VersionsBelow (bound + 1) := by
  intro path
  rw [version_hover]
  exact below.sync requested path

end

section

variable {parser : Parser} {disk : Disk} {manager : Manager ScriptEngine} {doc : Document}

/-- A coherent manager tells the problems of the document that it is given, and stays coherent. -/
theorem Coherent.diagnostics (disk : Disk) (doc : Document) (coherent : manager.Coherent parser)
    (below : manager.version doc.path < Table.versionLimit) :
    ∃ active, (manager.sync (scriptEngine parser) disk doc).active = some active ∧
      active.Coherent parser ∧ active.table.Holds doc ∧
      (manager.diagnostics (scriptEngine parser) disk doc).1 =
        doc.diagnosticsWith parser ((active.host disk).resolve doc.path.normalize) ∧
      (manager.diagnostics (scriptEngine parser) disk doc).2.Coherent parser := by
  obtain ⟨active, found, holds⟩ := sync_holds (scriptEngine parser) disk manager doc
  have activeCoherent := coherent.sync disk below active found
  obtain ⟨between, last, lastCoherent, first, second⟩ :=
    activeCoherent.engine.answers disk active.config activeCoherent.consistent holds
  refine ⟨active, found, activeCoherent, holds, ?_⟩
  simp only [Manager.diagnostics, activate_of_active found, ActiveSession.host, first, second]
  refine ⟨rfl, ?_⟩
  intro next stored
  obtain rfl := Option.some.inj stored
  exact ⟨activeCoherent.consistent, lastCoherent⟩

/-- A coherent manager tells what is known about a position of the document that it is given, and
stays coherent. -/
theorem Coherent.hover (disk : Disk) (doc : Document) (coherent : manager.Coherent parser)
    (below : manager.version doc.path < Table.versionLimit) (position : Text.Position) :
    (manager.hover (scriptEngine parser) disk doc position).1 = doc.hoverAt parser position ∧
      (manager.hover (scriptEngine parser) disk doc position).2.Coherent parser := by
  obtain ⟨active, found, holds⟩ := sync_holds (scriptEngine parser) disk manager doc
  have synced := coherent.sync disk below
  have activeCoherent := synced active found
  unfold Manager.hover Document.hoverAt
  split
  · obtain ⟨last, lastCoherent, answer⟩ := activeCoherent.engine.quickInfo_eq disk
      active.config activeCoherent.consistent holds (doc.offsetAt position)
    simp only [activate_of_active found, ActiveSession.host, answer]
    refine ⟨trivial, ?_⟩
    intro next stored
    obtain rfl := Option.some.inj stored
    exact ⟨activeCoherent.consistent, lastCoherent⟩
  · exact ⟨rfl, synced⟩

end

/-! ## Runs -/

end Manager

/-- A call of a manager. -/
inductive SessionCall where
  | update (doc : Document)
  | diagnostics (doc : Document)
  | hover (doc : Document) (position : Text.Position)
  | close (doc : Document)
  | reset

/-- The version that a call asks for. -/
def SessionCall.requested : SessionCall → Nat
  | update doc | diagnostics doc | hover doc _ => doc.version
  | close _ | reset => 0

namespace Manager

variable {E : Type} (maker : Engine E)

/-- The manager after a call, with the disk as it was at that time. -/
def perform (manager : Manager E) : Disk × SessionCall → Manager E
  | (disk, .update doc) => (manager.update maker disk doc).2
  | (disk, .diagnostics doc) => (manager.diagnostics maker disk doc).2
  | (disk, .hover doc position) => (manager.hover maker disk doc position).2
  | (_, .close doc) => manager.close doc
  | (_, .reset) => manager.reset

/-- The manager after calls one after another. -/
def performAll (manager : Manager E) (calls : List (Disk × SessionCall)) : Manager E :=
  calls.foldl (perform maker) manager

theorem reset_active (manager : Manager E) : manager.reset.active = none := by
  unfold reset
  split
  · assumption
  · rfl

theorem VersionsBelow.perform {manager : Manager E} {bound : Nat}
    (below : manager.VersionsBelow bound) {call : Disk × SessionCall}
    (requested : call.2.requested ≤ bound) :
    (manager.perform maker call).VersionsBelow (bound + 1) := by
  obtain ⟨disk, call⟩ := call
  cases call with
  | update doc => exact below.update requested
  | diagnostics doc => exact below.diagnostics requested
  | hover doc position => exact below.hover requested position
  | close doc => exact fun path => Nat.lt_succ_of_lt (below path)
  | reset => exact versionsBelow_of_inactive manager.reset_active (Nat.succ_pos bound)

/-- A run of calls raises versions by one for each call at most. -/
theorem VersionsBelow.performAll {manager : Manager E} {bound : Nat}
    (below : manager.VersionsBelow bound) {calls : List (Disk × SessionCall)}
    (requested : ∀ call ∈ calls, call.2.requested ≤ bound) :
    (manager.performAll maker calls).VersionsBelow (bound + calls.length) := by
  induction calls generalizing manager bound with
  | nil => exact below
  | cons call rest ih =>
      have next := below.perform maker (requested call List.mem_cons_self)
      have after := ih next fun other member =>
        Nat.le_succ_of_le (requested other (List.mem_cons_of_mem _ member))
      intro path
      have small : ((manager.perform maker call).performAll maker rest).version path <
          bound + (rest.length + 1) := by
        have smaller := after path
        omega
      exact small

theorem Coherent.perform {parser : Parser} {manager : Manager ScriptEngine}
    (coherent : manager.Coherent parser) (below : manager.VersionsBelow Table.versionLimit)
    (call : Disk × SessionCall) :
    (manager.perform (scriptEngine parser) call).Coherent parser := by
  obtain ⟨disk, call⟩ := call
  cases call with
  | update doc => exact coherent.update disk (below doc.path)
  | diagnostics doc =>
      obtain ⟨_, _, _, _, _, after⟩ := coherent.diagnostics disk doc (below doc.path)
      exact after
  | hover doc position => exact (coherent.hover disk doc (below doc.path) position).2
  | close doc => exact coherent
  | reset => exact coherent_of_inactive manager.reset_active

theorem Coherent.performAll {parser : Parser} {manager : Manager ScriptEngine}
    (coherent : manager.Coherent parser) (calls : List (Disk × SessionCall))
    (below : ∀ done, done <+: calls →
      (manager.performAll (scriptEngine parser) done).VersionsBelow Table.versionLimit) :
    (manager.performAll (scriptEngine parser) calls).Coherent parser := by
  induction calls generalizing manager with
  | nil => exact coherent
  | cons call rest ih =>
      refine ih (coherent.perform (below [] List.nil_prefix) call) ?_
      intro done isPrefix
      exact below (call :: done) (List.prefix_cons_inj call |>.mpr isPrefix)

/-- Analysis is transparent. Take any run of calls, in the course of which the disk may change, and a
document. As long as no version that was stored is the largest one, the engine has the document's own
script once the document is synced, and what the manager answers about the document is what a new
engine with the same options answers. Neither engine is at a loss. -/
theorem answers_eq_newEngine (parser : Parser) (start : Manager ScriptEngine)
    (inactive : start.active = none) (calls : List (Disk × SessionCall))
    (below : ∀ done, done <+: calls →
      (start.performAll (scriptEngine parser) done).VersionsBelow Table.versionLimit)
    (disk : Disk) (doc : Document) :
    ∃ active,
      ((start.performAll (scriptEngine parser) calls).sync (scriptEngine parser) disk doc).active =
        some active ∧
      ScriptEngine.current parser active.session.engine (active.host disk) doc.path.normalize =
        .ok (SourceFile.parse parser doc.path.normalize
          ((active.host disk).version doc.path.normalize) doc.dialect.scriptKind doc.text) ∧
      (∀ engine ∈ [active.session.engine, ScriptEngine.create active.session.engine.options],
        (scriptEngine parser).diagnosticsOf engine (active.host disk) doc =
          .ok ((start.performAll (scriptEngine parser) calls).diagnostics
            (scriptEngine parser) disk doc).1) ∧
      ∀ position,
        ∀ engine ∈ [active.session.engine, ScriptEngine.create active.session.engine.options],
          (scriptEngine parser).hoverOf engine (active.host disk) doc position =
            .ok ((start.performAll (scriptEngine parser) calls).hover
              (scriptEngine parser) disk doc position).1 := by
  have coherent := (coherent_of_inactive inactive).performAll calls below
  have small := below calls List.prefix_rfl doc.path
  obtain ⟨active, found, activeCoherent, holds, told, _⟩ :=
    coherent.diagnostics disk doc small
  have engines : ∀ engine ∈
      [active.session.engine, ScriptEngine.create active.session.engine.options],
      engine.Coherent parser active.table := by
    intro engine member
    rcases List.mem_cons.mp member with rfl | member
    · exact activeCoherent.engine
    · rw [List.mem_singleton.mp member]
      exact .create parser _ _
  refine ⟨active, found, activeCoherent.engine.current_eq activeCoherent.consistent holds, ?_, ?_⟩
  · intro engine member
    rw [told]
    exact (engines engine member).diagnosticsOf_eq activeCoherent.consistent holds
  · intro position engine member
    rw [(coherent.hover disk doc small position).1]
    exact (engines engine member).hoverOf_eq activeCoherent.consistent holds position

end Manager

/-! ## A script and a typed one -/

/-- A script that declares a name and uses it. -/
def usingText : String := "let a;a"

def usingTree : Tree :=
  .branch "program" "" 0 7
    [.branch "lexical_declaration" "" 0 6
      [.token "let" "kind" 0 3,
        .branch "variable_declarator" "" 4 5 [.branch "identifier" "name" 4 5 []],
        .token ";" "" 5 6],
      .branch "expression_statement" "" 6 7 [.branch "identifier" "" 6 7 []]]

/-- A typed script that imports a file, and whose value does not fit its annotation. -/
def misfitText : String := "import './l';let b:number='c'"

def misfitTree : Tree :=
  .branch "program" "" 0 29
    [.importing 0 3,
      .branch "lexical_declaration" "" 13 29
        [.token "let" "kind" 13 16,
          .branch "variable_declarator" "" 17 29
            [.branch "identifier" "name" 17 18 [],
              .branch "type_annotation" "type" 18 25
                [.token ":" "" 18 19,
                  .branch "predefined_type" "" 19 25 [.token "number" "" 19 25]],
              .token "=" "" 25 26, .quoted "value" 26 1]]]

/-- A parser that knows both, and the script without anything in it. -/
def scriptParser : Parser :=
  .knowing [(usingText, usingTree), ("", .branch "program" "" 0 0 [])]
    [(misfitText, misfitTree), (usingText, usingTree)]

/-- A directory with the file that is imported. -/
def scriptDisk : Disk :=
  (FileTree.dir [("l.ts", .file (some usingText))]).disk Path.root

namespace Manager

/-- Two documents of one file. -/
private def untypedDoc : Document :=
  .ofBounds (Path.ofText "/a.html") usingText.toList 0 7 9 ∅

private def typedDoc : Document :=
  .ofBounds (Path.ofText "/x/../a.html") misfitText.toList 0 29 1
    ((∅ : Attributes).insert "lang" "ts")

private def start : Manager ScriptEngine :=
  .ofConfig { root := Path.root }

/-- Questions in the course of which the file that is imported comes into being. -/
private def mixedCalls : List (Disk × SessionCall) :=
  let bare := (FileTree.dir []).disk Path.root
  [(bare, .diagnostics untypedDoc), (bare, .update typedDoc), (scriptDisk, .reset),
    (scriptDisk, .hover untypedDoc ⟨0, 6⟩), (scriptDisk, .diagnostics untypedDoc)]

private def afterMixedCalls : Manager ScriptEngine :=
  start.performAll (scriptEngine scriptParser) mixedCalls

theorem answers_eq_newEngine_mixedCalls :
    (afterMixedCalls.hover (scriptEngine scriptParser) scriptDisk typedDoc ⟨0, 17⟩).1 =
        some ⟨⟨⟨0, 17⟩, ⟨0, 18⟩⟩, "ts", "let b: number", none⟩ ∧
      ∃ active,
        (afterMixedCalls.sync (scriptEngine scriptParser) scriptDisk typedDoc).active = some active ∧
        (scriptEngine scriptParser).diagnosticsOf
            (ScriptEngine.create active.session.engine.options) (active.host scriptDisk) typedDoc =
          .ok (afterMixedCalls.diagnostics (scriptEngine scriptParser) scriptDisk typedDoc).1 ∧
        (scriptEngine scriptParser).hoverOf (ScriptEngine.create active.session.engine.options)
            (active.host scriptDisk) typedDoc ⟨0, 17⟩ =
          .ok (some ⟨⟨⟨0, 17⟩, ⟨0, 18⟩⟩, "ts", "let b: number", none⟩) := by
  have hovered : (afterMixedCalls.hover (scriptEngine scriptParser) scriptDisk typedDoc ⟨0, 17⟩).1 =
      some ⟨⟨⟨0, 17⟩, ⟨0, 18⟩⟩, "ts", "let b: number", none⟩ := by decide +kernel
  obtain ⟨active, found, _, told, shown⟩ :=
    answers_eq_newEngine scriptParser start rfl mixedCalls (by
      intro done isPrefix path
      have requested : ∀ call ∈ done, call.2.requested ≤ 9 := by
        intro call member
        have listed := isPrefix.subset member
        simp only [mixedCalls, List.mem_cons, List.not_mem_nil, or_false] at listed
        rcases listed with rfl | rfl | rfl | rfl | rfl <;>
          simp [SessionCall.requested, untypedDoc, typedDoc, Document.ofBounds]
      have below : start.VersionsBelow 9 := versionsBelow_of_inactive rfl (by omega)
      have small := below.performAll (scriptEngine scriptParser) requested path
      have short : done.length ≤ 5 := isPrefix.length_le
      have limit : Table.versionLimit = 18446744073709551615 := rfl
      omega) scriptDisk typedDoc
  refine ⟨hovered, active, found, told _ (by simp), ?_⟩
  rw [← hovered]
  exact shown _ _ (by simp)

end Manager

end InlineScript
