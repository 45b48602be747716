import InlineScript.Proofs.Tree.Sites
import InlineScript.Proofs.Tree.Written
import InlineScript.QuickInfo.Basic

/-!
Which declaration is shown for an identifier that declares nothing itself. It is the one whose scope
begins last, and of several the one that is collected last. Among nested scopes the inner ones begin
later, unless they begin together with an outer one.
-/

namespace InlineScript.QuickInfo

variable {root : Tree} {site identifier : Site} {declaration picked other : Declaration}
  {text : Text.Cuts}

/-! ## Sites of declarations -/

/-- Whether the name and the scope of a declaration are sites of a tree. -/
structure Declaration.LiesIn (root : Tree) (declaration : Declaration) : Prop where
  name : root.HasSite declaration.name
  scope : root.HasSite declaration.scope

theorem hasSite_scopeAbove {tree : Tree} {above : List (Tree × Nat)}
    (has : root.HasSite { tree, above }) : root.HasSite (scopeAbove tree above) := by
  induction above generalizing tree with
  | nil => exact has
  | cons first above ih =>
      obtain ⟨parent, number⟩ := first
      have hasParent : root.HasSite { tree := parent, above } := has.of_parent? rfl
      rw [scopeAbove]
      split
      · exact hasParent
      · exact ih hasParent

theorem hasSite_functionScope (has : root.HasSite site) : root.HasSite (functionScope site) := by
  unfold functionScope
  cases up : site.parent? with
  | none => exact has
  | some parent => exact has.of_parent? up

theorem liesIn_of_mem_named {kind : DeclarationKind} (has : root.HasSite site)
    (listed : declaration ∈ named kind site) : declaration.LiesIn root := by
  unfold named at listed
  split at listed
  next => contradiction
  next name found =>
    cases List.mem_singleton.mp listed
    exact ⟨has.of_field? found, hasSite_scopeAbove has⟩

theorem liesIn_of_mem_annotatedParameter (has : root.HasSite site)
    (listed : declaration ∈ annotatedParameter site) : declaration.LiesIn root := by
  unfold annotatedParameter at listed
  split at listed
  next => contradiction
  next name found =>
    cases List.mem_singleton.mp listed
    refine ⟨has.of_field? (Option.filter_eq_some_iff.mp found).1, ?_⟩
    cases up : site.parent? with
    | none => exact has
    | some parent => exact hasSite_functionScope (has.of_parent? up)

theorem hasSite_of_plainParameterName? {name : Site} (has : root.HasSite site)
    (found : plainParameterName? site = some name) : root.HasSite name := by
  unfold plainParameterName? at found
  split at found
  next => exact Option.some.inj found ▸ has
  next =>
    split at found
    next => exact has.of_field? (Option.filter_eq_some_iff.mp found).1
    next => contradiction

theorem liesIn_of_mem_plainParameters (has : root.HasSite site)
    (listed : declaration ∈ plainParameters site) : declaration.LiesIn root := by
  obtain ⟨parameter, isChild, made⟩ := List.mem_filterMap.mp listed
  obtain ⟨name, found, rfl⟩ := Option.map_eq_some_iff.mp made
  have hasParameter := has.of_mem_namedChildren isChild
  exact ⟨hasSite_of_plainParameterName? hasParameter found, hasSite_functionScope has⟩

theorem liesIn_of_mem_soleParameter (has : root.HasSite site)
    (listed : declaration ∈ soleParameter site) : declaration.LiesIn root := by
  unfold soleParameter at listed
  split at listed
  next => contradiction
  next name found =>
    cases List.mem_singleton.mp listed
    exact ⟨has.of_field? (Option.filter_eq_some_iff.mp found).1, has⟩

theorem liesIn_of_mem_importedName (has : root.HasSite site)
    (listed : declaration ∈ importedName (Site.ofRoot root) site) : declaration.LiesIn root := by
  unfold importedName at listed
  split at listed
  next => contradiction
  next name found =>
    cases List.mem_singleton.mp listed
    refine ⟨?_, .ofRoot root⟩
    cases Option.or_eq_some_iff.mp found with
    | inl renamed => exact has.of_field? renamed
    | inr unchanged => exact has.of_field? unchanged.2

theorem liesIn_of_mem_importedWhole (has : root.HasSite site)
    (listed : declaration ∈ importedWhole (Site.ofRoot root) site) : declaration.LiesIn root := by
  obtain ⟨name, isChild, rfl⟩ := List.mem_map.mp listed
  exact ⟨has.of_mem_namedChildren (List.mem_filter.mp isChild).1, .ofRoot root⟩

theorem liesIn_of_mem_declarations (listed : declaration ∈ declarations root) :
    declaration.LiesIn root := by
  obtain ⟨site, isSite, declares⟩ := List.mem_flatMap.mp listed
  have has := Tree.hasSite_of_mem_sites isSite
  unfold declarationsAt at declares
  split at declares
  all_goals first
    | exact liesIn_of_mem_named has declares
    | exact liesIn_of_mem_annotatedParameter has declares
    | exact liesIn_of_mem_plainParameters has declares
    | exact liesIn_of_mem_soleParameter has declares
    | exact liesIn_of_mem_importedName has declares
    | exact liesIn_of_mem_importedWhole has declares
    | contradiction

theorem hasSite_identifierAt? {offset : Nat} (found : identifierAt? root offset = some identifier) :
    root.HasSite identifier := by
  have exactly {offset : Nat} (found : identifierExactlyAt? root offset = some identifier) :
      root.HasSite identifier := by
    simp only [identifierExactlyAt?] at found
    split at found
    next => exact Option.some.inj found ▸ Tree.hasSite_siteAt root _
    next => contradiction
  cases Option.or_eq_some_iff.mp found with
  | inl here => exact exactly here
  | inr before =>
      split at before
      next => simp at before
      next => exact exactly before.2

/-! ## The scope that begins last -/

theorem innermost?_eq_none_iff {candidates : List Declaration} :
    innermost? candidates = none ↔ candidates = [] := by
  cases candidates with
  | nil => simp [innermost?]
  | cons first rest =>
      rw [innermost?]
      split
      · simp
      · split <;> simp

theorem innermost?_spec {candidates : List Declaration} (found : innermost? candidates = some picked) :
    ∃ before after, candidates = before ++ picked :: after ∧
      (∀ other ∈ before, other.scope.tree.start ≤ picked.scope.tree.start) ∧
      ∀ other ∈ after, other.scope.tree.start < picked.scope.tree.start := by
  induction candidates generalizing picked with
  | nil => contradiction
  | cons first rest ih =>
      rw [innermost?] at found
      split at found
      next none =>
        cases found
        exact ⟨[], [], by rw [innermost?_eq_none_iff.mp none, List.nil_append], by simp, by simp⟩
      next last some =>
        obtain ⟨before, after, rfl, earlier, later⟩ := ih some
        split at found
        next beginsLater =>
          cases found
          refine ⟨[], before ++ last :: after, rfl, by simp, ?_⟩
          rw [List.forall_mem_append, List.forall_mem_cons]
          exact ⟨fun other listed => Nat.lt_of_le_of_lt (earlier other listed) beginsLater, beginsLater,
            fun other listed => Nat.lt_trans (later other listed) beginsLater⟩
        next beginsEarlier =>
          cases found
          refine ⟨first :: before, after, rfl, ?_, later⟩
          exact List.forall_mem_cons.mpr ⟨Nat.le_of_not_lt beginsEarlier, earlier⟩

theorem mem_of_declarationOf? {collected : List Declaration}
    (refers : declarationOf? text collected identifier = some picked) : picked ∈ collected := by
  cases Option.or_eq_some_iff.mp refers with
  | inl found => exact List.mem_of_find?_eq_some found
  | inr picks =>
      obtain ⟨before, after, split, -, -⟩ := innermost?_spec picks.2
      have seen : picked ∈ visible text collected identifier := by simp [split]
      exact (List.mem_filter.mp seen).1

theorem declarationOf?_of_uses (has : root.HasSite identifier)
    (uses : ∀ declaration ∈ declarations root, declaration.name ≠ identifier) :
    declarationOf? text (declarations root) identifier =
      innermost? (visible text (declarations root) identifier) := by
  have notFound : (declarations root).find? (·.name.address == identifier.address) = none := by
    rw [List.find?_eq_none]
    intro declaration listed same
    exact uses declaration listed
      ((liesIn_of_mem_declarations listed).name.eq_of_address has (eq_of_beq same))
  rw [declarationOf?, notFound, Option.none_or]

theorem exists_of_quickInfo? {file : SourceFile} {offset : Nat} {info : InlineScript.QuickInfo}
    (parsed : file.tree = some root) (found : identifierAt? root offset = some identifier)
    (known : file.quickInfo? offset = some info) :
    ∃ picked, declarationOf? file.cuts (declarations root) identifier = some picked ∧
      info = {
        span := identifier.tree.span
        display := picked.display file.cuts
        documentation := picked.documentation? file.cuts } := by
  simp only [SourceFile.quickInfo?, parsed, found, Option.bind_eq_bind, Option.bind_some] at known
  obtain ⟨picked, refers, shown⟩ := Option.bind_eq_some_iff.mp known
  exact ⟨picked, refers, (Option.some.inj shown).symm⟩

/-- Whether no candidate's scope is below that of a declaration. -/
def Innermost (candidates : List Declaration) (picked : Declaration) : Prop :=
  ∀ other ∈ candidates, ¬ other.scope.Below picked.scope

/-- A scope that is below another one does not begin before it. -/
theorem innermost_iff {before after : List Declaration} (nests : picked.scope.tree.Nests)
    (later : ∀ other ∈ after, other.scope.tree.start < picked.scope.tree.start)
    (earlier : ∀ other ∈ before, other.scope.tree.start ≤ picked.scope.tree.start) :
    Innermost (before ++ picked :: after) picked ↔
      ∀ other ∈ before, other.scope.tree.start = picked.scope.tree.start →
        ¬ other.scope.Below picked.scope := by
  constructor
  · intro innermost other listed _
    exact innermost other (List.mem_append_left _ listed)
  · intro apart other listed below
    have covered := (below.covers nests).1
    cases List.mem_append.mp listed with
    | inl inBefore =>
        have same := Nat.le_antisymm (earlier other inBefore) covered
        exact apart other inBefore same below
    | inr notBefore =>
        cases List.mem_cons.mp notBefore with
        | inl isPicked =>
            subst isPicked
            exact Site.not_below_self _ below
        | inr inAfter => exact Nat.not_lt.mpr covered (later other inAfter)

/-- Among the declarations of its name whose scopes cover it, an identifier that declares nothing is
shown the one whose scope begins last, and of several the one collected last. Its scope is an innermost
one, unless a declaration collected before it has a scope below it that begins at the same byte. -/
theorem quickInfo?_innermost_iff (file : SourceFile) (root : Tree) (offset : Nat) (identifier : Site)
    (info : InlineScript.QuickInfo) (parsed : file.tree = some root) (nests : root.Nests)
    (found : identifierAt? root offset = some identifier)
    (uses : ∀ declaration ∈ declarations root, declaration.name ≠ identifier)
    (known : file.quickInfo? offset = some info) :
    ∃ before picked after,
      visible file.cuts (declarations root) identifier = before ++ picked :: after ∧
      info = {
        span := identifier.tree.span
        display := picked.display file.cuts
        documentation := picked.documentation? file.cuts } ∧
      (∀ other ∈ before, other.scope.tree.start ≤ picked.scope.tree.start) ∧
      (∀ other ∈ after, other.scope.tree.start < picked.scope.tree.start) ∧
      (Innermost (before ++ picked :: after) picked ↔
        ∀ other ∈ before, other.scope.tree.start = picked.scope.tree.start →
          ¬ other.scope.Below picked.scope) := by
  obtain ⟨picked, refers, shown⟩ := exists_of_quickInfo? parsed found known
  have lies := liesIn_of_mem_declarations (mem_of_declarationOf? refers)
  rw [declarationOf?_of_uses (hasSite_identifierAt? found) uses] at refers
  obtain ⟨before, after, split, earlier, later⟩ := innermost?_spec refers
  have pickedNests : picked.scope.tree.Nests := lies.scope.everywhere nests
  exact ⟨before, picked, after, split, shown, earlier, later, innermost_iff pickedNests later earlier⟩

/-- `function f(x) \x7b return x; \x7d` at an offset, without its punctuation. -/
private def functionTree (offset : Nat) : Tree :=
  .branch "function_declaration" "" offset (offset + 27)
    [.branch "identifier" "name" (offset + 9) (offset + 10) [],
      .branch "formal_parameters" "parameters" (offset + 10) (offset + 13)
        [.branch "identifier" "" (offset + 11) (offset + 12) []],
      .branch "statement_block" "body" (offset + 14) (offset + 27)
        [.branch "return_statement" "" (offset + 16) (offset + 25)
          [.branch "identifier" "" (offset + 23) (offset + 24) []]]]

/-- `let x = 1;` at an offset, without its punctuation. -/
private def bindingTree (offset : Nat) : Tree :=
  .branch "lexical_declaration" "" offset (offset + 10)
    [.token "let" "kind" offset (offset + 3),
      .branch "variable_declarator" "" (offset + 4) (offset + 9)
        [.branch "identifier" "name" (offset + 4) (offset + 5) [],
          .branch "number" "value" (offset + 8) (offset + 9) []]]

private def bindingFirst : Tree :=
  .branch "program" "" 0 38 [bindingTree 0, functionTree 11]

private def functionFirst : Tree :=
  .branch "program" "" 0 38 [functionTree 0, bindingTree 28]

private def fileOf (text : String) (root : Tree) : SourceFile where
  path := Path.ofText "/main.js"
  version := "1"
  kind := .js
  text := text
  tree := some root

theorem quickInfo?_innermost_iff_bindingFirst :
    let file := fileOf "let x = 1;\nfunction f(x) \x7b return x; \x7d" bindingFirst
    let identifier := bindingFirst.siteAt 34
    let info : InlineScript.QuickInfo := ⟨⟨34, 1⟩, "(parameter) x: any", none⟩
    let candidates := visible file.cuts (declarations bindingFirst) identifier
    bindingFirst.Nests ∧ identifierAt? bindingFirst 34 = some identifier ∧
      (∀ declaration ∈ declarations bindingFirst, declaration.name ≠ identifier) ∧
      file.quickInfo? 34 = some info ∧ candidates.length = 2 ∧
      ∃ picked ∈ candidates, info.display = picked.display file.cuts ∧ Innermost candidates picked := by
  intro file identifier info candidates
  have nests : bindingFirst.Nests := by decide +kernel
  have found : identifierAt? bindingFirst 34 = some identifier := by rfl
  have uses : ∀ declaration ∈ declarations bindingFirst, declaration.name ≠ identifier := by
    have apart : ∀ declaration ∈ declarations bindingFirst,
        declaration.name.address ≠ identifier.address := by decide +kernel
    exact fun declaration listed same => apart declaration listed (congrArg Site.address same)
  have known : file.quickInfo? 34 = some info := by decide +kernel
  refine ⟨nests, found, uses, known, by decide +kernel, ?_⟩
  obtain ⟨before, picked, after, split, shown, -, -, innermost⟩ :=
    quickInfo?_innermost_iff file bindingFirst 34 identifier info rfl nests found uses known
  have apart : candidates.Pairwise fun first second =>
      first.scope.tree.start ≠ second.scope.tree.start := by decide +kernel
  have whole : candidates = before ++ picked :: after := split
  rw [whole] at apart ⊢
  refine ⟨picked, by simp, by rw [shown], innermost.mpr ?_⟩
  intro other listed same
  exact absurd same ((List.pairwise_append.mp apart).2.2 other listed picked List.mem_cons_self)

/-- The parameter of a script's first function is hidden by a later binding of the whole script. -/
theorem quickInfo?_not_innermost :
    let file := fileOf "function f(x) \x7b return x; \x7d\nlet x = 1;" functionFirst
    let identifier := functionFirst.siteAt 23
    let candidates := visible file.cuts (declarations functionFirst) identifier
    file.quickInfo? 23 = some ⟨⟨23, 1⟩, "let x: number", none⟩ ∧
      ∃ picked ∈ declarationOf? file.cuts (declarations functionFirst) identifier,
        ¬ Innermost candidates picked := by
  intro file identifier candidates
  refine ⟨by decide +kernel, ?_⟩
  have outer : (declarationOf? file.cuts (declarations functionFirst) identifier).map
      (·.scope.address) = some [] := by decide +kernel
  have inner : ∃ other ∈ candidates, other.scope.address = [0] := by decide +kernel
  obtain ⟨picked, refers, top⟩ := Option.map_eq_some_iff.mp outer
  obtain ⟨other, seen, lower⟩ := inner
  have hasOuter := (liesIn_of_mem_declarations (mem_of_declarationOf? refers)).scope
  have hasInner := (liesIn_of_mem_declarations (List.mem_filter.mp seen).1).scope
  have below : other.scope.Below picked.scope :=
    (hasInner.below_iff hasOuter).mpr (by simp [top, lower])
  exact ⟨picked, refers, fun innermost => innermost other seen below⟩

end InlineScript.QuickInfo
