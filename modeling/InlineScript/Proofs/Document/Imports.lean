import InlineScript.Proofs.Check.Description
import InlineScript.Proofs.Session.Transparency

/-!
How much of what imports mean shows in the diagnostics of a document: whether a file is found for
each name, and not which one.
-/

namespace InlineScript

namespace Check

variable {resolve other : String → Option Module.Resolved}

theorem unanswered_map {Import : Type} (name : Import → String) (imported : List Import) :
    unanswered ((imported.map name).map resolve) imported =
      imported.filter fun entry => (resolve (name entry)).isNone := by
  induction imported with
  | nil => rfl
  | cons first rest ih =>
      rw [List.map_cons, List.map_cons, List.filter_cons]
      cases answer : resolve (name first) with
      | none => exact congrArg (first :: ·) ih
      | some module => exact ih

/-- The problems with imports when each name means something by itself. -/
theorem unresolvedImports_map (text : Text.Cuts) (root : Tree) :
    unresolvedImports text (·.map resolve) root =
      ((imports text root).filter fun entry => (resolve entry.2).isNone).map fun entry =>
        notFound entry.1 entry.2 := by
  rw [unresolvedImports_eq, unanswered_map]

theorem message_notFound_injective {node otherNode : Tree} {name otherName : String}
    (same : (notFound node name).message = (notFound otherNode otherName).message) :
    name = otherName := by
  have chars := congrArg String.toList same
  simp only [notFound, Finding.error, String.toList_append, List.append_assoc,
    List.append_cancel_left_eq, List.append_cancel_right_eq] at chars
  exact String.toList_injective chars

end Check

namespace Document

variable (parser : Parser) (doc : Document)

/-- The names that the script of a document imports, with the nodes that spell them. -/
def imports : List (Tree × String) :=
  (doc.source parser "0").tree.elim [] (Check.imports (doc.source parser "0").cuts)

def importedNames : List String :=
  (doc.imports parser).map (·.2)

variable {parser doc} {resolve other : String → Option Module.Resolved}

/-- The diagnostics are those about imports without a file, and others for which it does not matter
what imports mean. -/
theorem exists_diagnosticsWith_perm (parser : Parser) (doc : Document) :
    ∃ others : List Diagnostic, ∀ resolve : String → Option Module.Resolved,
      (doc.diagnosticsWith parser (·.map resolve)).Perm
        ((((doc.imports parser).filter fun entry => (resolve entry.2).isNone).map fun entry =>
          doc.diagnostic doc.dialect (Check.notFound entry.1 entry.2)) ++ others) := by
  generalize parsed : doc.source parser "0" = file
  have told (resolve : String → Option Module.Resolved) :=
    doc.diagnosticsWith_perm parser (·.map resolve)
  rw [parsed] at told
  cases grown : file.tree with
  | none =>
      refine ⟨file.parsingProblems.map (doc.diagnostic doc.dialect), fun resolve => ?_⟩
      simpa [SourceFile.meaningProblems, imports, parsed, grown] using told resolve
  | some root =>
      generalize rest : Check.redeclarations file.cuts root ++
        (if file.isTyped then Check.mismatches file.cuts root else []) = remaining
      refine ⟨(file.parsingProblems ++ remaining).map (doc.diagnostic doc.dialect), fun resolve => ?_⟩
      have collected : file.meaningProblems (·.map resolve) =
          (((doc.imports parser).filter fun entry => (resolve entry.2).isNone).map fun entry =>
            Check.notFound entry.1 entry.2) ++ remaining := by
        rw [SourceFile.meaningProblems, imports, parsed, grown, Option.elim_some, Option.elim_some,
          List.append_assoc, rest, Check.unresolvedImports_map]
      have described := told resolve
      rw [collected, List.map_append, List.map_append, List.map_map] at described
      rw [List.map_append]
      exact described.trans (List.perm_append_comm_assoc _ _ _)

/-- A name without a file is told of, and that cannot be about another name. -/
theorem eq_none_of_diagnosticsWith_eq
    (same : doc.diagnosticsWith parser (·.map resolve) = doc.diagnosticsWith parser (·.map other))
    {name : String} (imported : name ∈ doc.importedNames parser) (missing : resolve name = none) :
    other name = none := by
  obtain ⟨others, described⟩ := exists_diagnosticsWith_perm parser doc
  obtain ⟨entry, listed, rfl⟩ := List.mem_map.mp imported
  have told := (described resolve).symm.trans ((List.Perm.of_eq same).trans (described other))
  have member := ((List.perm_append_right_iff others).mp told).subset
    (List.mem_map.mpr ⟨entry, List.mem_filter.mpr ⟨listed, by simp [missing]⟩, rfl⟩)
  obtain ⟨found, kept, alike⟩ := List.mem_map.mp member
  have messages : (Check.notFound found.1 found.2).message = (Check.notFound entry.1 entry.2).message :=
    congrArg Diagnostic.message alike
  rw [← Check.message_notFound_injective messages]
  exact Option.isNone_iff_eq_none.mp (List.mem_filter.mp kept).2

/-- Two meanings of imports give the same diagnostics exactly if they find files for the same names. -/
theorem diagnosticsWith_eq_iff :
    doc.diagnosticsWith parser (·.map resolve) = doc.diagnosticsWith parser (·.map other) ↔
      ∀ name ∈ doc.importedNames parser, (resolve name).isSome = (other name).isSome := by
  constructor
  · intro same name imported
    cases found : resolve name with
    | none => rw [eq_none_of_diagnosticsWith_eq same imported found]
    | some module =>
        cases again : other name with
        | none => rw [eq_none_of_diagnosticsWith_eq same.symm imported again] at found; contradiction
        | some module => rfl
  · intro same
    have meaning : (doc.source parser "0").meaningProblems (·.map resolve) =
        (doc.source parser "0").meaningProblems (·.map other) := by
      unfold SourceFile.meaningProblems
      cases grown : (doc.source parser "0").tree with
      | none => rfl
      | some root =>
          have unanswered : ∀ entry ∈ Check.imports (doc.source parser "0").cuts root,
              (resolve entry.2).isNone = (other entry.2).isNone := by
            intro entry listed
            have imported : entry ∈ doc.imports parser := by simpa [imports, grown] using listed
            rw [← Option.not_isSome, ← Option.not_isSome, same entry.2 (List.mem_map_of_mem imported)]
          simp only [Option.elim_some, Check.unresolvedImports_map, List.filter_congr unanswered]
    rw [diagnosticsWith, diagnosticsWith, SourceFile.problems_eq, SourceFile.problems_eq, meaning]

end Document

end InlineScript
