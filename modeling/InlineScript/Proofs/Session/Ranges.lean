import InlineScript.Proofs.Check.Order
import InlineScript.Proofs.Format.Replacement
import InlineScript.Proofs.Session.Transparency
import InlineScript.Proofs.Text.RoundTrip

/-!
The ranges that are reported for a document. Whatever span an engine gives, its range lies in the
script, and findings in the order of their spans are diagnostics in the order of their ranges.
-/

namespace InlineScript

open Text

/-! ## Documents -/

namespace Document

variable {host : List Char} {doc : Document}

inductive BuiltFrom (host : List Char) : Document → Prop where
  | bounds (path : Path) (start stop version : Nat) (attributes : Attributes) :
      BuiltFrom host (ofBounds path host start stop version attributes)
  | file (path : Path) (version : Nat) : BuiltFrom host (ofHost path host version)

theorem BuiltFrom.host_eq (built : doc.BuiltFrom host) : doc.host = host := by
  cases built with
  | bounds => exact host_ofBounds _ _ _
  | file => exact host_ofHost

theorem stop_ofBounds (path : Path) (host : List Char) (start stop version : Nat)
    (attributes : Attributes) :
    (ofBounds path host start stop version attributes).stop = floorBoundary host stop := by
  rw [stop_eq]
  simp only [ofBounds, slice, takeBytes_append_dropBytes, floorBoundary]

theorem start_ofBounds (path : Path) (host : List Char) (start stop version : Nat)
    (attributes : Attributes) :
    (ofBounds path host start stop version attributes).start =
      min (floorBoundary host start) (floorBoundary host stop) := by
  have cut : (ofBounds path host start stop version attributes).start =
      floorBoundary host (min start stop) := by
    simp only [Document.start, ofBounds, takeBytes_takeBytes, floorBoundary]
  rw [cut]
  cases Nat.le_total start stop with
  | inl ordered => rw [Nat.min_eq_left ordered, Nat.min_eq_left (floorBoundary_mono ordered host)]
  | inr reversed => rw [Nat.min_eq_right reversed, Nat.min_eq_right (floorBoundary_mono reversed host)]

theorem isBoundary_start (doc : Document) : IsBoundary doc.host doc.start :=
  ⟨doc.before, ⟨doc.body ++ doc.after, (List.append_assoc _ _ _).symm⟩, rfl⟩

theorem isBoundary_stop (doc : Document) : IsBoundary doc.host doc.stop :=
  ⟨doc.before ++ doc.body, ⟨doc.after, rfl⟩, doc.stop_eq.symm⟩

theorem stop_le_byteLength (doc : Document) : doc.stop ≤ byteLength doc.host :=
  doc.isBoundary_stop.le_byteLength

theorem positionAt_mono (doc : Document) {first second : Nat} (ordered : first ≤ second) :
    doc.positionAt first ≤ doc.positionAt second :=
  LineIndex.positionAt_mono (by omega) doc.host

/-- Whether a range runs forward and lies in the script. -/
structure Covers (doc : Document) (range : Range) : Prop where
  begins : doc.positionAt 0 ≤ range.start
  forward : range.start ≤ range.stop
  ends : range.stop ≤ doc.positionAt doc.textLength

theorem covers_hostRange (doc : Document) (start length : Nat) :
    doc.Covers (doc.hostRange start length) where
  begins := doc.positionAt_mono (Nat.zero_le start)
  forward := doc.positionAt_mono (Nat.le_add_right start length)
  ends := LineIndex.positionAt_mono (by omega) doc.host

end Document

/-! ## Diagnostics -/

namespace Manager

variable {E : Type} (maker : Engine E) (disk : Disk) (manager : Manager E) (doc : Document)

/-- What the engine answers about a document: the syntactic findings and, asked behind them, the semantic
ones. -/
def engineFindings : List Finding × List Finding :=
  let active := ((manager.sync maker disk doc).activate maker disk).1
  let host := active.host disk
  let syntactic := maker.syntactic active.session.engine host doc.path.normalize
  (findings syntactic.1, findings (maker.semantic syntactic.2 host doc.path.normalize).1)

theorem diagnostics_eq :
    (manager.diagnostics maker disk doc).1 =
      (Finding.sort (manager.engineFindings maker disk doc).1
        ++ Finding.sort (manager.engineFindings maker disk doc).2).map (doc.diagnostic doc.dialect) :=
  rfl

end Manager

namespace Document

/-- Whether diagnostics are findings in the order of their ranges. -/
structure Shows (doc : Document) (found : List Finding) (diagnostics : List Diagnostic) : Prop where
  perm : diagnostics.Perm (found.map (doc.diagnostic doc.dialect))
  ordered : diagnostics.Pairwise fun first second => first.range.start ≤ second.range.start
  covered : ∀ diagnostic ∈ diagnostics, doc.Covers diagnostic.range

theorem shows_sort (doc : Document) (found : List Finding) :
    doc.Shows found ((Finding.sort found).map (doc.diagnostic doc.dialect)) where
  perm := (Finding.sort_perm found).map _
  ordered := by
    rw [List.pairwise_map]
    exact (Finding.inOrder_sort found).imp doc.positionAt_mono
  covered := by
    intro diagnostic listed
    obtain ⟨finding, -, rfl⟩ := List.mem_map.mp listed
    exact doc.covers_hostRange _ _

end Document

/-- The bounds of a document are boundaries of its file, those at or before the bounds that were asked
for. Each range runs forward and stays in the script, and its numbers are words. The diagnostics of a
document are the syntactic findings of the engine and the semantic ones behind them, none lost and none
added, both in the order of their ranges. -/
theorem Manager.diagnostics_in_script {E : Type} (maker : Engine E) (disk : Disk) (manager : Manager E)
    (host : List Char) (doc : Document) (built : doc.BuiltFrom host)
    (short : byteLength host < 4294967296) :
    (doc.host = host ∧ doc.start ≤ doc.stop ∧ doc.stop ≤ byteLength host ∧
      IsBoundary host doc.start ∧ IsBoundary host doc.stop) ∧
    (∀ path start stop version attributes,
      doc = Document.ofBounds path host start stop version attributes →
        doc.stop = floorBoundary host stop ∧ doc.start = min (floorBoundary host start) doc.stop) ∧
    (∀ start length, doc.Covers (doc.hostRange start length)) ∧
    (∀ offset, (doc.positionAt offset).line < 4294967296 ∧
      (doc.positionAt offset).character < 4294967296) ∧
    ∃ syntactic semantic, (manager.diagnostics maker disk doc).1 = syntactic ++ semantic ∧
      doc.Shows (manager.engineFindings maker disk doc).1 syntactic ∧
      doc.Shows (manager.engineFindings maker disk doc).2 semantic := by
  have whole := built.host_eq
  refine ⟨⟨whole, Nat.le_add_right _ _, whole ▸ doc.stop_le_byteLength, whole ▸ doc.isBoundary_start,
    whole ▸ doc.isBoundary_stop⟩, ?_, doc.covers_hostRange, ?_, ?_⟩
  · rintro path start stop version attributes rfl
    rw [Document.start_ofBounds, Document.stop_ofBounds]
    exact ⟨rfl, rfl⟩
  · intro offset
    obtain ⟨line, character⟩ := LineIndex.positionAt_le_byteLength doc.host
      (doc.start + min offset doc.textLength)
    rw [← whole] at short
    exact ⟨Nat.lt_of_le_of_lt line short, Nat.lt_of_le_of_lt character short⟩
  · refine ⟨_, _, ?_, doc.shows_sort _, doc.shows_sort _⟩
    rw [diagnostics_eq, List.map_append]

private def lateFinding : Finding :=
  Finding.error ⟨9, 1⟩ 1012 "late"

private def endlessFinding : Finding :=
  Finding.error ⟨1, 18446744073709551615⟩ 1012 "endless"

/-- An engine that gives spans out of order and far behind the script, and has no semantic answers. -/
private def strayEngine : Engine Unit where
  create _ := ()
  options _ := {}
  syntactic _ _ _ := (.ok [lateFinding, endlessFinding], ())
  semantic _ _ path := (.error (.missingSource path), ())
  quickInfo _ _ _ _ := (.ok none, ())
  dispose _ := ()

theorem Manager.diagnostics_in_script_stray :
    let host := "aé\nb".toList
    let doc := Document.ofBounds (Path.ofText "/w/a.ts") host 2 99 1 ∅
    let manager : Manager Unit := Manager.ofWorkspace Path.root
    doc.BuiltFrom host ∧ byteLength host < 4294967296 ∧
      ∃ syntactic semantic,
        (manager.diagnostics strayEngine scriptDisk doc).1 = syntactic ++ semantic ∧
        doc.Shows [lateFinding, endlessFinding] syntactic ∧ doc.Shows [] semantic := by
  intro host doc manager
  have built : doc.BuiltFrom host := .bounds _ _ _ _ _
  have short : byteLength host < 4294967296 := by decide
  exact ⟨built, short,
    (Manager.diagnostics_in_script strayEngine scriptDisk manager host doc built short).2.2.2.2⟩

end InlineScript
