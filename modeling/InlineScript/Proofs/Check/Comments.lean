import Mathlib.Data.List.Dedup
import Mathlib.Data.List.Perm.Subperm
import InlineScript.Proofs.Check.Description
import InlineScript.Proofs.Check.Faults
import InlineScript.Proofs.Tree.Written

/-!
Comments are named children like others, so that a comment at the wrong place hides a problem. But
for this, the problems that are found are those of the script without its comments, and the order in
which names were collected does not show.
-/

namespace InlineScript

namespace Tree

variable {tree child : Tree}

def isComment (tree : Tree) : Bool :=
  tree.kind == "comment" || tree.kind == "html_comment"

/-- The named children of a node that are no comments. -/
def contents (tree : Tree) : List Tree :=
  tree.namedChildren.filter fun child => !child.isComment

/-- Whether the first named child of a node is a comment. -/
def LeadsWithComment (tree : Tree) : Prop :=
  ∃ comment, tree.namedChildren.head? = some comment ∧ comment.isComment = true

theorem not_leadsWithComment (first : tree.namedChildren.head? = some child)
    (plain : child.isComment = false) : ¬ tree.LeadsWithComment := by
  intro leads
  obtain ⟨comment, isFirst, isComment⟩ := leads
  rw [first, Option.some.injEq] at isFirst
  rw [← isFirst, plain] at isComment
  contradiction

theorem head?_contents (first : tree.namedChildren.head? = some child)
    (plain : child.isComment = false) : tree.contents.head? = some child := by
  rw [contents]
  cases named : tree.namedChildren with
  | nil => simp [named] at first
  | cons other rest =>
      rw [named, List.head?_cons, Option.some.injEq] at first
      rw [first, List.filter_cons_of_pos (by simp [plain]), List.head?_cons]

theorem head?_namedChildren (first : tree.contents.head? = some child)
    (plain : ¬ tree.LeadsWithComment) : tree.namedChildren.head? = some child := by
  cases named : tree.namedChildren with
  | nil => simp [contents, named] at first
  | cons other rest =>
      have isPlain : other.isComment = false := by
        rw [← Bool.not_eq_true]
        exact fun comment => plain ⟨other, by rw [named, List.head?_cons], comment⟩
      have same := head?_contents (by rw [named, List.head?_cons]) isPlain
      rw [List.head?_cons, ← same, first]

theorem isComment_eq_false_of_kind {kind : String} (own : tree.kind = kind)
    (plain : kind ≠ "comment" ∧ kind ≠ "html_comment") : tree.isComment = false := by
  simp [isComment, own, plain]

end Tree

namespace Check

variable {text : Text.Cuts} {tree node : Tree} {type : Primitive}

/-! ## What comments hide -/

/-- Whether a call has a comment between its brackets. -/
def CommentedCall (tree : Tree) : Prop :=
  tree.kind = "call_expression" ∧ ∃ arguments, tree.field? "arguments" = some arguments ∧
    ∃ child ∈ arguments.namedChildren, child.isComment = true

/-- Whether a comment is the first thing in brackets around a value. -/
inductive CommentedBrackets : Tree → Prop where
  | here {tree : Tree} (kind : tree.kind = "parenthesized_expression")
      (comment : tree.LeadsWithComment) : CommentedBrackets tree
  | inside {tree inner : Tree} (kind : tree.kind = "parenthesized_expression")
      (first : tree.namedChildren.head? = some inner) (commented : CommentedBrackets inner) :
      CommentedBrackets tree

/-- Whether a comment stands in front of the type or of the value of a declarator. -/
def CommentedDeclarator (tree : Tree) : Prop :=
  (∃ typeNode, tree.field? "type" = some typeNode ∧ typeNode.LeadsWithComment) ∨
    ∃ value, tree.field? "value" = some value ∧ CommentedBrackets value

/-- Whether a comment keeps a problem at a node of a file from being found. -/
def Hides (file : SourceFile) (tree : Tree) : Prop :=
  (CommentedCall tree ∧ ∃ entry, Imports Tree.contents file.cuts tree entry) ∨
    (file.isTyped = true ∧ CommentedDeclarator tree ∧
      ∃ finding, Misfits Tree.contents file.cuts tree finding)

/-! ## Imports -/

theorem contents_eq_namedChildren (plain : ∀ child ∈ tree.namedChildren, child.isComment = false) :
    tree.contents = tree.namedChildren := by
  rw [Tree.contents, List.filter_eq_self]
  exact fun child listed => by simp [plain child listed]

theorem specifies_iff :
    Specifies Tree.namedChildren text tree node ↔
      Specifies Tree.contents text tree node ∧ ¬ CommentedCall tree := by
  constructor
  · intro specifies
    cases specifies with
    | statement kind source =>
        refine ⟨.statement kind source, fun commented => ?_⟩
        simp [commented.1] at kind
    | @call function arguments kind called plain require given only isString =>
        have clear : ∀ child ∈ arguments.namedChildren, child.isComment = false := by
          rw [only]
          exact List.forall_mem_singleton.mpr
            (Tree.isComment_eq_false_of_kind isString (by decide))
        refine ⟨.call kind called plain require given ?_ isString, fun commented => ?_⟩
        · rw [contents_eq_namedChildren clear, only]
        · obtain ⟨-, others, others_given, child, listed, comment⟩ := commented
          rw [given, Option.some.injEq] at others_given
          rw [← others_given] at listed
          rw [clear child listed] at comment
          contradiction
  · intro found
    obtain ⟨specifies, plainCall⟩ := found
    cases specifies with
    | statement kind source => exact .statement kind source
    | @call function arguments kind called plain require given only isString =>
        have clear : ∀ child ∈ arguments.namedChildren, child.isComment = false := by
          intro child listed
          rw [← Bool.not_eq_true]
          exact fun comment => plainCall ⟨kind, arguments, given, child, listed, comment⟩
        rw [contents_eq_namedChildren clear] at only
        exact .call kind called plain require given only isString

theorem imports_iff {entry : Tree × String} :
    Imports Tree.namedChildren text tree entry ↔
      Imports Tree.contents text tree entry ∧ ¬ CommentedCall tree := by
  rw [Imports, Imports, specifies_iff, and_right_comm]

/-! ## Annotations -/

theorem IsLiteral.not_isComment {parts : Tree → List Tree} (literal : IsLiteral parts tree type) :
    tree.isComment = false := by
  cases literal with
  | number kind => exact Tree.isComment_eq_false_of_kind kind (by decide)
  | string kind =>
      rcases kind with kind | kind <;> exact Tree.isComment_eq_false_of_kind kind (by decide)
  | boolean kind =>
      rcases kind with kind | kind <;> exact Tree.isComment_eq_false_of_kind kind (by decide)
  | parenthesized kind => exact Tree.isComment_eq_false_of_kind kind (by decide)

theorem CommentedBrackets.kind (commented : CommentedBrackets tree) :
    tree.kind = "parenthesized_expression" := by
  cases commented with
  | here kind => exact kind
  | inside kind => exact kind

theorem not_commentedBrackets_of_kind {kind : String} (own : tree.kind = kind)
    (plain : kind ≠ "parenthesized_expression") : ¬ CommentedBrackets tree :=
  fun commented => plain (own.symm.trans commented.kind)

theorem isLiteral_iff :
    IsLiteral Tree.namedChildren tree type ↔
      IsLiteral Tree.contents tree type ∧ ¬ CommentedBrackets tree := by
  constructor
  · intro literal
    induction literal with
    | number kind => exact ⟨.number kind, not_commentedBrackets_of_kind kind (by decide)⟩
    | string kind =>
        refine ⟨.string kind, ?_⟩
        rcases kind with kind | kind <;> exact not_commentedBrackets_of_kind kind (by decide)
    | boolean kind =>
        refine ⟨.boolean kind, ?_⟩
        rcases kind with kind | kind <;> exact not_commentedBrackets_of_kind kind (by decide)
    | parenthesized kind first literal ih =>
        have plain := literal.not_isComment
        refine ⟨.parenthesized kind (Tree.head?_contents first plain) ih.1, fun commented => ?_⟩
        cases commented with
        | here _ leads => exact Tree.not_leadsWithComment first plain leads
        | inside _ isFirst commented =>
            rw [first, Option.some.injEq] at isFirst
            exact ih.2 (isFirst ▸ commented)
  · intro found
    obtain ⟨literal, plain⟩ := found
    induction literal with
    | number kind => exact .number kind
    | string kind => exact .string kind
    | boolean kind => exact .boolean kind
    | parenthesized kind first _ ih =>
        have named := Tree.head?_namedChildren first fun leads => plain (.here kind leads)
        exact .parenthesized kind named (ih fun commented => plain (.inside kind named commented))

theorem annotates_iff :
    Annotates Tree.namedChildren text tree type ↔
      Annotates Tree.contents text tree type ∧ ¬ tree.LeadsWithComment := by
  constructor
  · intro annotates
    obtain ⟨named, first, kind, spelled⟩ := annotates
    have plain := Tree.isComment_eq_false_of_kind kind (by decide)
    exact ⟨⟨named, Tree.head?_contents first plain, kind, spelled⟩,
      Tree.not_leadsWithComment first plain⟩
  · intro found
    obtain ⟨⟨named, first, kind, spelled⟩, plain⟩ := found
    exact ⟨named, Tree.head?_namedChildren first plain, kind, spelled⟩

theorem misfits_iff {finding : Finding} :
    Misfits Tree.namedChildren text tree finding ↔
      Misfits Tree.contents text tree finding ∧ ¬ CommentedDeclarator tree := by
  simp only [Misfits, annotates_iff, isLiteral_iff]
  constructor
  · intro found
    obtain ⟨kind, name, typeNode, value, actual, expected, named, annotated, has,
      ⟨annotates, plainType⟩, ⟨literal, plainValue⟩, rest⟩ := found
    refine ⟨⟨kind, name, typeNode, value, actual, expected, named, annotated, has, annotates,
      literal, rest⟩, fun commented => ?_⟩
    rcases commented with ⟨other, otherAnnotated, leads⟩ | ⟨other, otherHas, commented⟩
    · rw [annotated, Option.some.injEq] at otherAnnotated
      exact plainType (otherAnnotated ▸ leads)
    · rw [has, Option.some.injEq] at otherHas
      exact plainValue (otherHas ▸ commented)
  · intro found
    obtain ⟨⟨kind, name, typeNode, value, actual, expected, named, annotated, has, annotates,
      literal, rest⟩, plain⟩ := found
    exact ⟨kind, name, typeNode, value, actual, expected, named, annotated, has,
      ⟨annotates, fun leads => plain (.inl ⟨typeNode, annotated, leads⟩)⟩,
      ⟨literal, fun commented => plain (.inr ⟨value, has, commented⟩)⟩, rest⟩

/-! ## The description without comments -/

section

variable {root : Tree} {Value : Type} {narrow wide : Tree → Value → Prop}
variable {first second : List (Site × Value)}

theorem Lists.nodup (lists : Lists root wide first) : first.Nodup :=
  (lists.1.nodup root.nodup_sites).of_map

theorem Lists.subset (narrowLists : Lists root narrow first) (wideLists : Lists root wide second)
    (widens : ∀ tree value, narrow tree value → wide tree value) : first ⊆ second := by
  intro entry listed
  obtain ⟨has, holds⟩ := (narrowLists.2 entry).mp listed
  exact (wideLists.2 entry).mpr ⟨has, widens _ _ holds⟩

/-- A list that is no longer than one that it contains has the same entries. -/
theorem Lists.holds_of_length_le (narrowLists : Lists root narrow first)
    (wideLists : Lists root wide second)
    (widens : ∀ tree value, narrow tree value → wide tree value)
    (short : second.length ≤ first.length) {site : Site} {value : Value}
    (has : root.HasNamedSite site) (holds : wide site.tree value) : narrow site.tree value := by
  have same : first.Perm second :=
    (List.Nodup.subperm narrowLists.nodup
      (narrowLists.subset wideLists widens)).perm_of_length_le short
  have listed : (site, value) ∈ first := same.mem_iff.mpr ((wideLists.2 _).mpr ⟨has, holds⟩)
  exact ((narrowLists.2 _).mp listed).2

theorem Lists.congr (lists : Lists root narrow first)
    (same : ∀ site, root.HasNamedSite site → ∀ value, narrow site.tree value ↔ wide site.tree value) :
    Lists root wide first :=
  ⟨lists.1, fun entry => (lists.2 entry).trans (and_congr_right fun has => same _ has _)⟩

end

/-- Whether checking a file finds its problems, however imports are looked up. -/
def Describes (parts : Tree → List Tree) (file : SourceFile) (root : Tree)
    (check : (List String → List (Option Module.Resolved)) → List Finding) : Prop :=
  ∃ places : Places parts file root, ∀ resolve, (check resolve).Perm (places.findings resolve)

variable {file : SourceFile} {root : Tree}

theorem describes_namedChildren (parsed : file.tree = some root) :
    Describes Tree.namedChildren file root (semantic · file) := by
  refine ⟨placesOf file root, fun resolve => ?_⟩
  simp only [semantic_eq parsed]
  exact Finding.sort_perm _

theorem length_findings {parts : Tree → List Tree} (places : Places parts file root) :
    (places.findings fun _ => []).length =
      places.imported.length + places.names.length + places.misfits.length := by
  simp only [Places.findings, unanswered_nil, List.length_append, List.length_map]

theorem imports_contents (tree : Tree) (entry : Tree × String)
    (imports : Imports Tree.namedChildren text tree entry) :
    Imports Tree.contents text tree entry :=
  (imports_iff.mp imports).1

theorem misfits_contents (tree : Tree) (finding : Finding)
    (misfits : file.isTyped = true ∧ Misfits Tree.namedChildren file.cuts tree finding) :
    file.isTyped = true ∧ Misfits Tree.contents file.cuts tree finding :=
  ⟨misfits.1, (misfits_iff.mp misfits.2).1⟩

theorem not_hides_of_describes (parsed : file.tree = some root)
    (describes : Describes Tree.contents file root (semantic · file)) (site : Site)
    (has : root.HasNamedSite site) : ¬ Hides file site.tree := by
  intro hides
  obtain ⟨found, foundAll⟩ := describes_namedChildren parsed
  obtain ⟨places, all⟩ := describes
  -- If all imports are unanswered, each place is a finding, so that both have as many places.
  have count := ((all fun _ => []).symm.trans (foundAll fun _ => [])).length_eq
  rw [length_findings, length_findings] at count
  have names : places.names.length = found.names.length := by
    apply List.Perm.length_eq
    rw [List.perm_ext_iff_of_nodup places.nodup_names found.nodup_names]
    exact fun name => (places.mem_names name).trans (found.mem_names name).symm
  have moreImported := found.lists_imported.nodup.length_le_of_subset
    (found.lists_imported.subset places.lists_imported imports_contents)
  have moreMisfits := found.lists_misfits.nodup.length_le_of_subset
    (found.lists_misfits.subset places.lists_misfits misfits_contents)
  rcases hides with ⟨commented, entry, imports⟩ | ⟨typed, commented, finding, misfits⟩
  · have plain := found.lists_imported.holds_of_length_le places.lists_imported imports_contents
      (by omega) has imports
    exact (imports_iff.mp plain).2 commented
  · have plain := found.lists_misfits.holds_of_length_le places.lists_misfits misfits_contents
      (by omega) has ⟨typed, misfits⟩
    exact (misfits_iff.mp plain.2).2 commented

theorem describes_of_not_hides (parsed : file.tree = some root)
    (plain : ∀ site, root.HasNamedSite site → ¬ Hides file site.tree) :
    Describes Tree.contents file root (semantic · file) := by
  obtain ⟨found, foundAll⟩ := describes_namedChildren parsed
  have sameImports (site : Site) (has : root.HasNamedSite site) (entry : Tree × String) :
      Imports Tree.namedChildren file.cuts site.tree entry ↔
        Imports Tree.contents file.cuts site.tree entry := by
    rw [imports_iff, and_iff_left_iff_imp]
    exact fun imports commented => plain site has (.inl ⟨commented, entry, imports⟩)
  have sameMisfits (site : Site) (has : root.HasNamedSite site) (finding : Finding) :
      file.isTyped = true ∧ Misfits Tree.namedChildren file.cuts site.tree finding ↔
        file.isTyped = true ∧ Misfits Tree.contents file.cuts site.tree finding := by
    refine and_congr_right fun typed => ?_
    rw [misfits_iff, and_iff_left_iff_imp]
    exact fun misfits commented => plain site has (.inr ⟨typed, commented, finding, misfits⟩)
  let places : Places Tree.contents file root :=
    { found with
      lists_imported := found.lists_imported.congr sameImports
      lists_misfits := found.lists_misfits.congr sameMisfits }
  exact ⟨places, foundAll⟩

/-- A comment that hides a problem is the only reason not to find one. -/
theorem describes_contents_iff (parsed : file.tree = some root) :
    Describes Tree.contents file root (semantic · file) ↔
      ∀ site, root.HasNamedSite site → ¬ Hides file site.tree :=
  ⟨not_hides_of_describes parsed, describes_of_not_hides parsed⟩

/-! ## Files without comments -/

theorem hasNode_of_field? {field : String} (has : tree.field? field = some node) :
    tree.HasNode node :=
  .single (List.mem_of_find?_eq_some has)

theorem hasNode_of_mem_namedChildren (listed : node ∈ tree.namedChildren) : tree.HasNode node :=
  .single (List.mem_filter.mp listed).1

theorem hasNode_of_leadsWithComment (leads : tree.LeadsWithComment) :
    ∃ comment, tree.HasNode comment ∧ comment.isComment = true := by
  obtain ⟨comment, first, isComment⟩ := leads
  exact ⟨comment, hasNode_of_mem_namedChildren (List.mem_of_head? first), isComment⟩

theorem hasNode_of_commentedBrackets (commented : CommentedBrackets tree) :
    ∃ comment, tree.HasNode comment ∧ comment.isComment = true := by
  induction commented with
  | here _ leads => exact hasNode_of_leadsWithComment leads
  | inside _ first _ ih =>
      obtain ⟨comment, has, isComment⟩ := ih
      exact ⟨comment, (hasNode_of_mem_namedChildren (List.mem_of_head? first)).trans has, isComment⟩

/-- What hides a problem is a comment of the tree. -/
theorem hasNode_of_hides (hides : Hides file tree) :
    ∃ comment, tree.HasNode comment ∧ comment.isComment = true := by
  rcases hides with ⟨⟨-, arguments, given, child, listed, isComment⟩, -⟩ | ⟨-, commented, -⟩
  · exact ⟨child, (hasNode_of_field? given).trans (hasNode_of_mem_namedChildren listed), isComment⟩
  · rcases commented with ⟨typeNode, has, leads⟩ | ⟨value, has, commented⟩
    · obtain ⟨comment, below, isComment⟩ := hasNode_of_leadsWithComment leads
      exact ⟨comment, (hasNode_of_field? has).trans below, isComment⟩
    · obtain ⟨comment, below, isComment⟩ := hasNode_of_commentedBrackets commented
      exact ⟨comment, (hasNode_of_field? has).trans below, isComment⟩

theorem not_hides_of_no_comment (clear : ∀ node, root.HasNode node → node.isComment = false)
    (site : Site) (has : root.HasNamedSite site) : ¬ Hides file site.tree := by
  intro hides
  obtain ⟨comment, below, isComment⟩ := hasNode_of_hides hides
  rw [← Tree.mem_sites_iff, Tree.sites_eq_walk] at has
  rw [clear comment ((Site.hasNode_of_mem_walk has).trans below)] at isComment
  contradiction

/-- The problems found in a file are those described, with all named children as the parts of a
node: imports without a module at their strings, names at each of their declarations in one block,
and in typed files names with a literal of another type than the annotated one. They are those of the
script without its comments exactly if no comment hides one. They are ordered by their starts. If
names are collected through a map, its order can only show where names of a block start at the same
byte. -/
theorem semantic_finds_described (file : SourceFile) (root : Tree)
    (parsed : file.tree = some root) :
    Describes Tree.namedChildren file root (semantic · file) ∧
    (Describes Tree.contents file root (semantic · file) ↔
      ∀ site, root.HasNamedSite site → ¬ Hides file site.tree) ∧
    (∀ resolve, Finding.InOrder (semantic resolve file)) ∧
    ∀ order : Site → List (List Char),
      (∀ site, Iterates file.cuts (blockNames site.tree) (order site)) →
      ∀ resolve, (semanticBy order resolve file).Perm (semantic resolve file) ∧
        Finding.InOrder (semanticBy order resolve file) ∧
        ((∀ site, root.HasNamedSite site → isBlock site.tree = true → StartApart site.tree) →
          semanticBy order resolve file = semantic resolve file) := by
  refine ⟨describes_namedChildren parsed, describes_contents_iff parsed, ?_, ?_⟩
  · intro resolve
    rw [semantic_eq parsed]
    exact Finding.inOrder_sort _
  · intro order iterates resolve
    exact ⟨semanticBy_perm iterates resolve, inOrder_semanticBy order resolve file,
      fun apart => semanticBy_eq parsed iterates apart resolve⟩

/-- Two names declared by turns, with an import and two values that do not fit. -/
private def interleavedProgram : Tree :=
  .branch "program" "" 0 69
    [.branch "import_statement" "" 0 11 [.branch "string" "source" 7 10 []],
      .branch "lexical_declaration" "" 11 29
        [.branch "variable_declarator" "" 15 28
          [.branch "identifier" "name" 15 16 [],
            .branch "type_annotation" "type" 16 24 [.branch "predefined_type" "" 18 24 []],
            .branch "string" "value" 25 28 []]],
      .branch "lexical_declaration" "" 29 41
        [.branch "variable_declarator" "" 33 36
          [.branch "identifier" "name" 33 34 [], .branch "number" "value" 35 36 []],
          .branch "variable_declarator" "" 37 40
            [.branch "identifier" "name" 37 38 [], .branch "number" "value" 39 40 []]],
      .branch "export_statement" "" 41 69
        [.branch "lexical_declaration" "declaration" 48 69
          [.branch "variable_declarator" "" 52 68
            [.branch "identifier" "name" 52 53 [],
              .branch "type_annotation" "type" 53 61 [.branch "predefined_type" "" 55 61 []],
              .branch "parenthesized_expression" "value" 62 68
                [.branch "true" "" 63 67 []]]]]]

private def interleavedFile : SourceFile where
  path := .ofText "/main.ts"
  version := "1"
  kind := .ts
  text := "import 'm';let x: number='a';let y=1,x=2;export let y: string=(true);"
  tree := some interleavedProgram

private def interleavedFindings : List Finding :=
  [.error ⟨7, 3⟩ 2307 "Cannot find module 'm' or its corresponding type declarations.",
    .error ⟨15, 1⟩ 2451 "Cannot redeclare block-scoped variable 'x'.",
    .error ⟨33, 1⟩ 2451 "Cannot redeclare block-scoped variable 'y'.",
    .error ⟨37, 1⟩ 2451 "Cannot redeclare block-scoped variable 'x'.",
    .error ⟨52, 1⟩ 2451 "Cannot redeclare block-scoped variable 'y'.",
    .error ⟨15, 1⟩ 2322 "Type 'string' is not assignable to type 'number'.",
    .error ⟨52, 1⟩ 2322 "Type 'boolean' is not assignable to type 'string'."]

theorem semantic_finds_described_interleaved :
    let order (site : Site) : List (List Char) :=
      ((blockNames site.tree).map (·.textIn interleavedFile.cuts)).dedup.reverse
    order (.ofRoot interleavedProgram) = [['y'], ['x']] ∧
      (semanticBy order (fun _ => []) interleavedFile).Perm interleavedFindings ∧
      (∀ resolve, semanticBy order resolve interleavedFile = semantic resolve interleavedFile) ∧
      Describes Tree.contents interleavedFile interleavedProgram (semantic · interleavedFile) := by
  intro order
  obtain ⟨-, described, -, byMap⟩ :=
    semantic_finds_described interleavedFile interleavedProgram rfl
  have iterates (site : Site) :
      Iterates interleavedFile.cuts (blockNames site.tree) (order site) := by
    refine ⟨List.nodup_reverse.mpr (List.nodup_dedup _), fun key => ?_⟩
    rw [List.mem_reverse, List.mem_dedup, List.mem_map]
  have apart (site : Site) (has : interleavedProgram.HasNamedSite site)
      (isBlock : isBlock site.tree = true) : StartApart site.tree := by
    have all : interleavedProgram.sites.all (fun site => decide (StartApart site.tree)) = true := by
      decide +kernel
    exact of_decide_eq_true (List.all_eq_true.mp all site (Tree.mem_sites_iff.mpr has))
  have clear (node : Tree) (has : interleavedProgram.HasNode node) : node.isComment = false := by
    have all : ((Site.ofRoot interleavedProgram).walk fun _ => true).all
        (fun site => !site.tree.isComment) = true := by decide +kernel
    have below : (Site.ofRoot interleavedProgram).tree.HasNode node := has
    obtain ⟨site, visited, rfl⟩ := Site.exists_mem_walk below
    simpa using List.all_eq_true.mp all site visited
  have found : (placesOf interleavedFile interleavedProgram).findings (fun _ => []) =
      interleavedFindings := by decide +kernel
  refine ⟨by decide +kernel, (byMap order iterates _).1.trans ?_,
    fun resolve => (byMap order iterates resolve).2.2 apart,
    described.mpr (not_hides_of_no_comment clear)⟩
  rw [semantic_eq rfl, found]
  exact Finding.sort_perm _

/-- A declarator whose type stands behind a comment. -/
private def commentedDeclarator : Tree :=
  .branch "variable_declarator" "" 4 27
    [.branch "identifier" "name" 4 5 [],
      .branch "type_annotation" "type" 5 21
        [.token ":" "" 5 6, .branch "comment" "" 7 14 [],
          .branch "predefined_type" "" 15 21 []],
      .token "=" "" 22 23,
      .branch "string" "value" 24 27 []]

private def commentedProgram : Tree :=
  .branch "program" "" 0 28
    [.branch "lexical_declaration" "" 0 28 [commentedDeclarator, .token ";" "" 27 28]]

/-- A comment in front of the annotated type hides that the value does not fit. -/
theorem semantic_misses_commented :
    let file : SourceFile :=
      { path := .ofText "/main.ts", version := "1", kind := .ts
        text := "let c: /* c */ number = 'x';", tree := some commentedProgram }
    (∃ site, commentedProgram.HasNamedSite site ∧ Misfits Tree.contents file.cuts site.tree
      (.error ⟨4, 1⟩ 2322 "Type 'string' is not assignable to type 'number'.")) ∧
      semantic (fun _ => []) file = [] ∧
      ¬ Describes Tree.contents file commentedProgram (semantic · file) := by
  intro file
  have listed : commentedProgram.HasNamedSite ⟨commentedDeclarator, _⟩ :=
    Tree.mem_sites_iff.mp (List.mem_of_getElem? (i := 2) rfl)
  have misfits : Misfits Tree.contents file.cuts commentedDeclarator
      (.error ⟨4, 1⟩ 2322 "Type 'string' is not assignable to type 'number'.") :=
    ⟨rfl, _, _, _, .string, .number, rfl, rfl, rfl, ⟨_, rfl, rfl, by decide +kernel⟩,
      .string (.inl rfl), by decide, rfl⟩
  have found : (placesOf file commentedProgram).findings (fun _ => []) = [] := by decide +kernel
  refine ⟨⟨_, listed, misfits⟩, ?_, fun describes => ?_⟩
  · rw [semantic_eq rfl, found]
    exact Finding.sort_of_inOrder .nil
  · exact (describes_contents_iff rfl).mp describes _ listed
      (.inr ⟨rfl, .inl ⟨_, rfl, _, rfl, rfl⟩, _, misfits⟩)

end Check

end InlineScript
