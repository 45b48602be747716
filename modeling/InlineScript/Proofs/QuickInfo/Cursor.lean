import InlineScript.Proofs.QuickInfo.Scope
import InlineScript.Proofs.Tree.Lookup

/-!
What is shown at an offset is about the identifier there. The offset lies in the identifier or at one of
its ends, except for two kinds of offsets: those that do not fit into a word, which are taken for other
offsets, and those one byte behind an identifier that is empty. All offsets of an identifier get the same
answer.
-/

namespace InlineScript.QuickInfo

variable {root : Tree} {identifier : Site} {declaration : Declaration} {text : Text.Cuts}
  {file : SourceFile} {offset : Nat}

/-! ## The name that is shown -/

def leads : List String :=
  ["let ", "const ", "var ", "function ", "class ", "interface ", "enum ", "type ", "(parameter) ",
   "import "]

theorem keyword_append_mem_leads (declarator : Site) : keyword declarator ++ " " ∈ leads := by
  unfold keyword
  simp only
  split
  next word filtered =>
    have listed := (Option.filter_eq_some_iff.mp filtered).2
    simp only [List.contains_iff_mem, List.mem_cons, List.not_mem_nil, or_false] at listed
    rcases listed with rfl | rfl | rfl <;> decide
  next => decide

/-- A declaration in short shows the declared name behind one of the leads. -/
theorem exists_display (text : Text.Cuts) (declaration : Declaration) :
    ∃ lead ∈ leads, ∃ rest,
      declaration.display text = lead ++ declaration.name.tree.stringIn text ++ rest := by
  have bare (lead : String) : lead ++ declaration.name.tree.stringIn text =
      lead ++ declaration.name.tree.stringIn text ++ "" := String.append_empty.symm
  unfold Declaration.display
  cases declaration.kind with
  | binding => exact ⟨_, keyword_append_mem_leads declaration.node, _, String.append_assoc⟩
  | function => exact ⟨"function ", by decide, _, String.append_assoc⟩
  | classType => exact ⟨"class ", by decide, "", bare _⟩
  | interface => exact ⟨"interface ", by decide, "", bare _⟩
  | enumeration => exact ⟨"enum ", by decide, "", bare _⟩
  | typeAlias => exact ⟨"type ", by decide, _, String.append_assoc⟩
  | parameter => exact ⟨"(parameter) ", by decide, _, String.append_assoc⟩
  | imported => exact ⟨"import ", by decide, "", bare _⟩

theorem textIn_of_declarationOf? (has : root.HasSite identifier)
    (refers : declarationOf? text (declarations root) identifier = some declaration) :
    declaration.name.tree.textIn text = identifier.tree.textIn text := by
  cases Option.or_eq_some_iff.mp refers with
  | inl found =>
      -- the identifier is the declared name itself
      have lies := liesIn_of_mem_declarations (List.mem_of_find?_eq_some found)
      have address := List.find?_some found
      rw [lies.name.eq_of_address has (eq_of_beq address)]
  | inr picks =>
      obtain ⟨before, after, split, -, -⟩ := innermost?_spec picks.2
      have seen : declaration ∈ visible text (declarations root) identifier := by simp [split]
      have fits := (List.mem_filter.mp seen).2
      rw [Bool.and_eq_true] at fits
      exact eq_of_beq fits.1

/-! ## The place that is found -/

/-- What is known of trees: nodes cover their children, which stand in order; identifiers are leaves
below the root; offsets of nodes are words. -/
structure ProperTree (root : Tree) : Prop where
  nests : root.Nests
  ordered : root.Ordered
  leaves : root.Everywhere fun node => node.kind ∈ identifierKinds → node.children = []
  inner : root.kind ∉ identifierKinds
  bounded : root.stop < 4294967296

theorem wordOffset_of_lt (small : offset < 4294967296) : wordOffset offset = offset :=
  Nat.mod_eq_of_lt small

theorem identifierExactlyAt?_eq_some_iff :
    identifierExactlyAt? root offset = some identifier ↔
      root.siteAt (wordOffset offset) = identifier ∧ identifier.tree.kind ∈ identifierKinds := by
  simp only [identifierExactlyAt?, Option.ite_none_right_eq_some, List.contains_iff_mem,
    Option.some.injEq]
  constructor
  · rintro ⟨isIdentifier, rfl⟩
    exact ⟨rfl, isIdentifier⟩
  · rintro ⟨rfl, isIdentifier⟩
    exact ⟨isIdentifier, rfl⟩

theorem isAt_of_identifierExactlyAt? (inner : root.kind ∉ identifierKinds)
    (found : identifierExactlyAt? root offset = some identifier) :
    identifier.tree.IsAt (wordOffset offset) := by
  obtain ⟨rfl, isIdentifier⟩ := identifierExactlyAt?_eq_some_iff.mp found
  cases root.siteAt_cases (wordOffset offset) with
  | inl isRoot =>
      rw [isRoot] at isIdentifier
      exact absurd isIdentifier inner
  | inr isAt => exact isAt

theorem identifierAt?_cases (found : identifierAt? root offset = some identifier) :
    ∃ back ≤ 1, back ≤ offset ∧
      identifierExactlyAt? root (offset - back) = some identifier := by
  cases Option.or_eq_some_iff.mp found with
  | inl here => exact ⟨0, by omega, by omega, here⟩
  | inr before =>
      split at before
      next => simp at before
      next positive => exact ⟨1, by omega, by omega, before.2⟩

theorem identifierAt?_of_exactly (found : identifierExactlyAt? root offset = some identifier) :
    identifierAt? root offset = some identifier := by
  rw [identifierAt?, found, Option.some_or]

/-- An offset lies in the identifier that is found for it, if it is a word and does not stand behind an
empty one. -/
theorem contains_iff_of_isAt {tree : Tree} {back : Nat} (bounded : tree.stop < 4294967296)
    (near : back ≤ 1) (inside : back ≤ offset) (isAt : tree.IsAt (wordOffset (offset - back))) :
    tree.start ≤ offset ∧ offset ≤ tree.stop ↔
      offset < 4294967296 ∧ (tree.start < tree.stop ∨ offset = tree.stop) := by
  have begun := isAt.start_le
  have reached := isAt.le_stop
  have goesOn := isAt.lt_stop_iff
  by_cases small : offset < 4294967296
  · rw [wordOffset_of_lt (by omega)] at begun reached goesOn
    omega
  · omega

/-! ## One answer for all offsets of an identifier -/

theorem quickInfo?_eq_of_identifierAt? {other : Nat} (parsed : file.tree = some root)
    (same : identifierAt? root offset = identifierAt? root other) :
    file.quickInfo? offset = file.quickInfo? other := by
  simp only [SourceFile.quickInfo?, parsed, Option.bind_eq_bind, Option.bind_some, same]

namespace ProperTree

variable (proper : ProperTree root) (filled : root.Filled) (has : root.HasSite identifier)
  (isIdentifier : identifier.tree.kind ∈ identifierKinds)

include proper filled has isIdentifier

theorem identifierExactlyAt?_eq (begun : identifier.tree.start ≤ offset)
    (goesOn : offset < identifier.tree.stop) :
    identifierExactlyAt? root offset = some identifier := by
  have leaf := (Tree.everywhere_iff.mp (has.everywhere proper.leaves)).1 isIdentifier
  have small : offset < 4294967296 := by
    have covered := has.stop_le proper.nests
    have bounded := proper.bounded
    omega
  rw [identifierExactlyAt?_eq_some_iff, wordOffset_of_lt small]
  exact ⟨Tree.siteAt_eq_of_leaf proper.nests proper.ordered filled has leaf begun goesOn, isIdentifier⟩

/-- The end of an identifier still counts for it, unless another one starts there. -/
theorem identifierAt?_stop (free : (root.siteAt identifier.tree.stop).tree.kind ∉ identifierKinds) :
    identifierAt? root identifier.tree.stop = some identifier := by
  have wide := has.start_lt_stop filled
  have small := Nat.lt_of_le_of_lt (has.stop_le proper.nests) proper.bounded
  have nothing : identifierExactlyAt? root identifier.tree.stop = none := by
    rw [Option.eq_none_iff_forall_ne_some]
    intro other found
    obtain ⟨rfl, isOther⟩ := identifierExactlyAt?_eq_some_iff.mp found
    rw [wordOffset_of_lt small] at isOther
    exact free isOther
  have before : identifierExactlyAt? root (identifier.tree.stop - 1) = some identifier :=
    proper.identifierExactlyAt?_eq filled has isIdentifier (by omega) (by omega)
  rw [identifierAt?, nothing, Option.none_or, if_neg (by omega), before]

end ProperTree

/-! ## The identifier under the cursor -/

/-- What is shown at an offset is a declaration of the name that an identifier of the tree has. The
identifier is at the offset or at the one before, both taken as words. The offset lies in it or at one of
its ends exactly if it is a word and not behind an empty identifier. In a tree without empty nodes all
offsets of the identifier are answered alike, and so is its end if no other identifier is there. -/
theorem quickInfo?_describes_identifier (file : SourceFile) (root : Tree) (offset : Nat)
    (info : InlineScript.QuickInfo) (parsed : file.tree = some root) (proper : ProperTree root)
    (known : file.quickInfo? offset = some info) :
    ∃ identifier, root.HasSite identifier ∧ identifier.tree.kind ∈ identifierKinds ∧
      info.span = identifier.tree.span ∧
      (∃ back ≤ 1, back ≤ offset ∧ identifier.tree.IsAt (wordOffset (offset - back))) ∧
      (info.span.start ≤ offset ∧ offset ≤ info.span.stop ↔
        offset < 4294967296 ∧ (0 < info.span.length ∨ offset = info.span.stop)) ∧
      (∃ declaration ∈ declarations root,
        declaration.name.tree.textIn file.cuts = identifier.tree.textIn file.cuts ∧
        info.display = declaration.display file.cuts) ∧
      (∃ lead ∈ leads, ∃ rest,
        info.display = lead ++ identifier.tree.stringIn file.cuts ++ rest) ∧
      (root.Filled →
        (∀ other, info.span.start ≤ other → other < info.span.stop →
          file.quickInfo? other = some info) ∧
        ((root.siteAt info.span.stop).tree.kind ∉ identifierKinds →
          file.quickInfo? info.span.stop = some info)) := by
  obtain ⟨identifier, found⟩ : ∃ identifier, identifierAt? root offset = some identifier := by
    simp only [SourceFile.quickInfo?, parsed, Option.bind_eq_bind, Option.bind_some] at known
    obtain ⟨identifier, found, -⟩ := Option.bind_eq_some_iff.mp known
    exact ⟨identifier, found⟩
  have has := hasSite_identifierAt? found
  obtain ⟨back, near, inside, exactly⟩ := identifierAt?_cases found
  have isIdentifier := (identifierExactlyAt?_eq_some_iff.mp exactly).2
  have isAt := isAt_of_identifierExactlyAt? proper.inner exactly
  have bounded := Nat.lt_of_le_of_lt (has.stop_le proper.nests) proper.bounded
  obtain ⟨declaration, refers, shown⟩ := exists_of_quickInfo? parsed found known
  have name := textIn_of_declarationOf? has refers
  have span : info.span = identifier.tree.span := by rw [shown]
  have start : info.span.start = identifier.tree.start := by rw [span]; rfl
  have length : info.span.length = identifier.tree.stop - identifier.tree.start := by rw [span]; rfl
  have stop : info.span.stop = identifier.tree.stop := by
    have ordered := has.start_le_stop proper.ordered
    rw [Text.Span.stop, start, length]
    omega
  have sameAnswer {other : Nat} (again : identifierAt? root other = some identifier) :
      file.quickInfo? other = some info := by
    rw [← known]
    exact quickInfo?_eq_of_identifierAt? parsed (again.trans found.symm)
  refine ⟨identifier, has, isIdentifier, span, ⟨back, near, inside, isAt⟩, ?_,
    ⟨declaration, mem_of_declarationOf? refers, name, by rw [shown]⟩, ?_, fun filled => ⟨?_, ?_⟩⟩
  · rw [start, stop, length, Nat.sub_pos_iff_lt]
    exact contains_iff_of_isAt bounded near inside isAt
  · obtain ⟨lead, listed, rest, display⟩ := exists_display file.cuts declaration
    refine ⟨lead, listed, rest, ?_⟩
    rw [shown, display, Tree.stringIn, Tree.stringIn, name]
  · intro other begun goesOn
    rw [start] at begun
    rw [stop] at goesOn
    exact sameAnswer (identifierAt?_of_exactly
      (proper.identifierExactlyAt?_eq filled has isIdentifier begun goesOn))
  · intro free
    rw [stop] at free ⊢
    exact sameAnswer (proper.identifierAt?_stop filled has isIdentifier free)

/-- `let x; x` -/
private def reuseTree : Tree :=
  .branch "program" "" 0 8
    [.branch "lexical_declaration" "" 0 6
      [.token "let" "kind" 0 3,
        .branch "variable_declarator" "" 4 5 [.branch "identifier" "name" 4 5 []],
        .token ";" "" 5 6],
      .branch "expression_statement" "" 7 8 [.branch "identifier" "" 7 8 []]]

private def reuseFile : SourceFile where
  path := Path.ofText "/main.js"
  version := "1"
  kind := .js
  text := "let x; x"
  tree := some reuseTree

private theorem properTree_reuseTree : ProperTree reuseTree where
  nests := by decide +kernel
  ordered := by decide +kernel
  leaves := by decide +kernel
  inner := by decide +kernel
  bounded := by decide +kernel

/-- At the end of a script its last identifier is described, as it is at its start. -/
theorem quickInfo?_describes_identifier_reuse :
    let info : InlineScript.QuickInfo := ⟨⟨7, 1⟩, "let x: any", none⟩
    ProperTree reuseTree ∧ reuseTree.Filled ∧ reuseFile.quickInfo? 8 = some info ∧
      (info.span.start ≤ 8 ∧ 8 ≤ info.span.stop) ∧ reuseFile.quickInfo? 7 = some info := by
  intro info
  have known : reuseFile.quickInfo? 8 = some info := by decide +kernel
  have filled : reuseTree.Filled := by decide +kernel
  obtain ⟨_, _, _, _, _, contains, _, _, alike⟩ :=
    quickInfo?_describes_identifier reuseFile reuseTree 8 info rfl properTree_reuseTree known
  exact ⟨properTree_reuseTree, filled, known, contains.mpr (by decide),
    (alike filled).1 7 (by decide) (by decide)⟩

/-- `function (x) \x7b\x7d` with a name that the parser put in -/
private def namelessTree : Tree :=
  .branch "program" "" 0 15
    [.branch "function_declaration" "" 0 15
      [.token "function" "" 0 8, .branch "identifier" "name" 8 8 [],
        .branch "formal_parameters" "parameters" 9 12 [.branch "identifier" "" 10 11 []],
        .branch "statement_block" "body" 13 15 []]]

private def namelessFile : SourceFile :=
  { reuseFile with text := "function (x) \x7b\x7d", tree := some namelessTree }

/-- An offset far behind a script is taken for one in it, and an empty name is described one byte behind
it. -/
theorem quickInfo?_beside_identifier :
    (ProperTree reuseTree ∧ ∃ info, reuseFile.quickInfo? 4294967303 = some info ∧
      ¬ (info.span.start ≤ 4294967303 ∧ 4294967303 ≤ info.span.stop)) ∧
    (ProperTree namelessTree ∧ ∃ info, namelessFile.quickInfo? 9 = some info ∧
      ¬ (info.span.start ≤ 9 ∧ 9 ≤ info.span.stop)) := by
  have properNameless : ProperTree namelessTree :=
    ⟨by decide +kernel, by decide +kernel, by decide +kernel, by decide +kernel, by decide +kernel⟩
  exact ⟨⟨properTree_reuseTree, ⟨⟨7, 1⟩, "let x: any", none⟩, by decide +kernel, by decide⟩,
    properNameless, ⟨⟨8, 0⟩, "function (x)", none⟩, by decide +kernel, by decide⟩

end InlineScript.QuickInfo
