import InlineScript.Check.Parsing
import InlineScript.Proofs.Check.Order
import InlineScript.Proofs.Tree.Walk
import InlineScript.Proofs.Tree.Written

/-!
Errors of parsing. Where the flags of a tree tell which nodes have a faulty one at or below them,
each faulty node that is below no other one is reported once, and nothing else is.
-/

namespace InlineScript

namespace Tree

variable {tree child inner : Tree}

/-- Whether a node is missing or erroneous. -/
def isFaulty (tree : Tree) : Bool :=
  tree.info.missing || tree.info.error

/-- Whether a node is another one or below it. -/
def HasNode (tree inner : Tree) : Prop :=
  Relation.ReflTransGen (fun parent child => child ∈ parent.children) tree inner

/-- Whether a faulty node is at or below a node. -/
def HasFault (tree : Tree) : Prop :=
  ∃ inner, tree.HasNode inner ∧ inner.isFaulty = true

/-- Whether the flag of every node tells if a faulty one is at or below it. -/
def Flagged (root : Tree) : Prop :=
  root.Everywhere fun node => node.info.hasError = true ↔ node.HasFault

end Tree

namespace Site

variable {site inner : Site} {enters : Tree → Bool}

theorem hasNode_of_mem_walk (visited : inner ∈ site.walk enters) :
    site.tree.HasNode inner.tree :=
  (mem_walk_iff.mp visited).lift tree fun _ _ entered => tree_mem_of_mem_children entered.1

theorem exists_mem_walk {node : Tree} (has : site.tree.HasNode node) :
    ∃ inner ∈ site.walk fun _ => true, inner.tree = node := by
  induction has with
  | refl => exact ⟨site, mem_walk_self _ site, rfl⟩
  | tail _ isChild ih =>
      obtain ⟨parent, visited, rfl⟩ := ih
      rw [← map_tree_children] at isChild
      obtain ⟨child, listed, rfl⟩ := List.mem_map.mp isChild
      exact ⟨child, mem_walk_iff.mpr ((mem_walk_iff.mp visited).tail ⟨listed, rfl⟩), rfl⟩

theorem hasFault_iff (site : Site) :
    site.tree.HasFault ↔ ∃ inner ∈ site.walk fun _ => true, inner.tree.isFaulty = true := by
  constructor
  · rintro ⟨node, has, faulty⟩
    obtain ⟨inner, visited, rfl⟩ := exists_mem_walk has
    exact ⟨inner, visited, faulty⟩
  · rintro ⟨inner, visited, faulty⟩
    exact ⟨inner.tree, hasNode_of_mem_walk visited, faulty⟩

end Site

instance (tree : Tree) : Decidable tree.HasFault :=
  decidable_of_iff (((Site.ofRoot tree).walk fun _ => true).any (·.tree.isFaulty) = true)
    (List.any_eq_true.trans (Site.ofRoot tree).hasFault_iff.symm)

instance (root : Tree) : Decidable root.Flagged :=
  inferInstanceAs (Decidable (root.Everywhere _))

namespace Site

variable {site child outer : Site}

/-! ## Nodes above a site -/

theorem below_iff_of_mem_children (listed : child ∈ site.children) :
    child.Below outer ↔ outer = site ∨ site.Below outer := by
  have above {other : Site} (otherListed : child ∈ other.children) : other = site :=
    Option.some.inj ((parent?_of_mem_children otherListed).symm.trans
      (parent?_of_mem_children listed))
  constructor
  · intro below
    cases below with
    | single otherListed => exact .inl (above otherListed)
    | tail below otherListed => exact .inr (above otherListed ▸ below)
  · rintro (rfl | below)
    · exact .single listed
    · exact .tail below listed

theorem not_below_ofRoot (root : Tree) (outer : Site) : ¬ (ofRoot root).Below outer := by
  have orphan {parent : Site} (listed : ofRoot root ∈ parent.children) : False :=
    Option.some_ne_none _ (parent?_of_mem_children listed).symm
  intro below
  cases below with
  | single listed => exact orphan listed
  | tail _ listed => exact orphan listed

/-- The nodes that a site keeps are those above it. -/
theorem forall_above_iff {root : Tree} (has : root.HasSite site) (holds : Tree → Prop) :
    (∀ entry ∈ site.above, holds entry.1) ↔ ∀ outer, site.Below outer → holds outer.tree := by
  induction has with
  | refl =>
      constructor
      · exact fun _ outer below => absurd below (not_below_ofRoot root outer)
      · exact fun _ entry listed => absurd listed List.not_mem_nil
  | tail _ listed ih =>
      obtain ⟨number, -, way⟩ := mem_children_iff.mp listed
      rw [way, List.forall_mem_cons, ih]
      simp only [below_iff_of_mem_children listed, or_imp, forall_and, forall_eq]

end Site

namespace Check

variable {site child inner : Site} {tree : Tree} {text : Text.Cuts}

/-! ## What is collected -/

/-- What is said about a faulty node. -/
def report (text : Text.Cuts) (tree : Tree) : Finding :=
  if tree.info.missing then expected tree else unexpected text tree

/-- Whether a site is faulty and none above it is. -/
def isTopFault (site : Site) : Bool :=
  site.tree.isFaulty && site.above.all fun entry => !entry.1.isFaulty

/-- The sites of a tree that are faulty and below no other faulty one. -/
def topFaults (site : Site) : List Site :=
  (site.walk fun _ => true).filter isTopFault

theorem errorsOf_eq (text : Text.Cuts) (trees : List Tree) :
    errorsOf text trees = trees.flatMap fun tree =>
      if tree.info.hasError || tree.info.missing then errorsIn text tree else [] := by
  induction trees with
  | nil => rfl
  | cons tree rest ih => rw [errorsOf, List.flatMap_cons, ih]

theorem errorsIn_of_isFaulty (faulty : tree.isFaulty = true) :
    errorsIn text tree = [report text tree] := by
  cases tree with
  | node info children =>
      cases missing : info.missing <;> cases error : info.error <;>
        simp_all [Tree.isFaulty, Tree.info, errorsIn, report]

theorem errorsIn_of_not_isFaulty (sound : tree.isFaulty = false) :
    errorsIn text tree = errorsOf text tree.children := by
  cases tree with
  | node info children =>
      obtain ⟨missing, error⟩ : info.missing = false ∧ info.error = false := by
        simpa [Tree.isFaulty, Tree.info] using sound
      simp [errorsIn, missing, error, Tree.children]

theorem topFaults_of_not_hasFault (none : ¬ site.tree.HasFault) : topFaults site = [] := by
  rw [topFaults, List.filter_eq_nil_iff]
  intro inner visited top
  exact none ((site.hasFault_iff).mpr ⟨inner, visited, (Bool.and_eq_true_iff.mp top).1⟩)

/-- Below a faulty node there is no top one. -/
theorem not_isTopFault_below (faulty : site.tree.isFaulty = true) (listed : child ∈ site.children)
    (visited : inner ∈ child.walk fun _ => true) : isTopFault inner = false := by
  obtain ⟨number, -, way⟩ := Site.mem_children_iff.mp listed
  have above : (site.tree, number) ∈ inner.above := by
    apply (Site.isSuffix_above_of_mem_walk visited).subset
    rw [way]
    exact List.mem_cons_self
  rw [isTopFault, Bool.and_eq_false_iff]
  right
  rw [List.all_eq_false]
  exact ⟨_, above, by simp [faulty]⟩

theorem topFaults_of_isFaulty (clear : ∀ entry ∈ site.above, entry.1.isFaulty = false)
    (faulty : site.tree.isFaulty = true) : topFaults site = [site] := by
  have own : isTopFault site = true := by
    rw [isTopFault, faulty, Bool.true_and, List.all_eq_true]
    exact fun entry listed => by simp [clear entry listed]
  have others : ((site.children.filter fun _ => true).flatMap (Site.walk fun _ => true)).filter
      isTopFault = [] := by
    rw [List.filter_eq_nil_iff]
    intro inner visited
    obtain ⟨child, listed, inChild⟩ := List.mem_flatMap.mp visited
    simp [not_isTopFault_below faulty (List.mem_filter.mp listed).1 inChild]
  rw [topFaults, Site.walk_eq, List.filter_cons_of_pos own, others]

theorem topFaults_of_not_isFaulty (sound : site.tree.isFaulty = false) :
    topFaults site = site.children.flatMap topFaults := by
  have own : ¬ isTopFault site = true := by simp [isTopFault, sound]
  rw [topFaults, Site.walk_eq, List.filter_cons_of_neg own, List.filter_true, List.filter_flatMap]
  rfl

/-- What is collected at a site below no faulty node is what is to be said about its top faults. -/
theorem errorsIn_eq_map_report (text : Text.Cuts) (site : Site)
    (clear : ∀ entry ∈ site.above, entry.1.isFaulty = false) (flagged : site.tree.Flagged) :
    errorsIn text site.tree = (topFaults site).map fun fault => report text fault.tree := by
  induction site using Site.induction with
  | step site ih =>
      cases faulty : site.tree.isFaulty with
      | true =>
          rw [errorsIn_of_isFaulty faulty, topFaults_of_isFaulty clear faulty]
          rfl
      | false =>
          rw [errorsIn_of_not_isFaulty faulty, topFaults_of_not_isFaulty faulty, errorsOf_eq,
            ← Site.map_tree_children, List.flatMap_map, List.map_flatMap]
          apply List.flatMap_congr
          intro child listed
          have childFlagged : child.tree.Flagged := Site.everywhere_of_mem_children listed flagged
          have childClear : ∀ entry ∈ child.above, entry.1.isFaulty = false := by
            obtain ⟨number, -, way⟩ := Site.mem_children_iff.mp listed
            rw [way]
            exact List.forall_mem_cons.mpr ⟨faulty, clear⟩
          split
          next => exact ih child listed childClear childFlagged
          next unflagged =>
            -- A child whose flag is not set is passed over: nothing is faulty there.
            have none : ¬ child.tree.HasFault := by
              refine mt (Tree.everywhere_iff.mp childFlagged).1.mpr fun set => unflagged ?_
              rw [set, Bool.true_or]
            rw [topFaults_of_not_hasFault none, List.map_nil]

theorem syntactic_eq {file : SourceFile} {root : Tree} (parsed : file.tree = some root)
    (flagged : root.Flagged) :
    syntactic file =
      Finding.sort ((topFaults (.ofRoot root)).map fun fault => report file.cuts fault.tree) := by
  have all := errorsIn_eq_map_report file.cuts (.ofRoot root) (by simp [Site.ofRoot]) flagged
  rw [syntactic, parsed]
  simp only
  split
  next => exact congrArg Finding.sort all
  next unflagged =>
    have none : ¬ (Site.ofRoot root).tree.HasFault :=
      mt (Tree.everywhere_iff.mp flagged).1.mpr unflagged
    rw [topFaults_of_not_hasFault none, List.map_nil]

/-! ## Which faults are on top -/

theorem mem_topFaults_iff {root : Tree} :
    site ∈ topFaults (.ofRoot root) ↔
      root.HasSite site ∧ site.tree.isFaulty = true ∧
        ∀ outer, site.Below outer → outer.tree.isFaulty = false := by
  rw [topFaults, List.mem_filter, ← Tree.hasSite_iff_mem_walk]
  refine and_congr_right fun has => ?_
  have above := Site.forall_above_iff has fun node => node.isFaulty = false
  rw [isTopFault, Bool.and_eq_true, List.all_eq_true, ← above]
  simp only [Bool.not_eq_true']

/-- If no faulty site is on top, none is faulty at all. -/
theorem sound_of_topFaults_nil {root : Tree} (none : topFaults (.ofRoot root) = [])
    (has : root.HasSite site) :
    site.tree.isFaulty = false ∧ ∀ outer, site.Below outer → outer.tree.isFaulty = false := by
  have sound {site : Site} (has : root.HasSite site)
      (clear : ∀ outer, site.Below outer → outer.tree.isFaulty = false) :
      site.tree.isFaulty = false := by
    rw [← Bool.not_eq_true]
    intro faulty
    have top := mem_topFaults_iff.mpr ⟨has, faulty, clear⟩
    rw [none] at top
    exact List.not_mem_nil top
  induction has with
  | refl =>
      have clear : ∀ outer, (Site.ofRoot root).Below outer → outer.tree.isFaulty = false :=
        fun outer below => absurd below (Site.not_below_ofRoot root outer)
      exact ⟨sound (.ofRoot root) clear, clear⟩
  | @tail parent child hasParent listed ih =>
      have clear : ∀ outer, child.Below outer → outer.tree.isFaulty = false := by
        intro outer below
        rcases (Site.below_iff_of_mem_children listed).mp below with rfl | further
        · exact ih.1
        · exact ih.2 outer further
      exact ⟨sound (.tail hasParent listed) clear, clear⟩

theorem topFaults_eq_nil_iff {root : Tree} :
    topFaults (.ofRoot root) = [] ↔ ∀ site, root.HasSite site → site.tree.isFaulty = false := by
  constructor
  · exact fun none site has => (sound_of_topFaults_nil none has).1
  · intro sound
    rw [List.eq_nil_iff_forall_not_mem]
    intro site listed
    obtain ⟨has, faulty, -⟩ := mem_topFaults_iff.mp listed
    rw [sound site has] at faulty
    contradiction

/-- Whether a finding says where a faulty node is, and if it is missing or erroneous. -/
def Reports (tree : Tree) (finding : Finding) : Prop :=
  if tree.info.missing then finding.code = 1005 ∧ finding.span = ⟨tree.start, 0⟩
  else finding.code = 1012 ∧ finding.span = .ofBounds tree.start tree.stop

theorem reports_report (text : Text.Cuts) (tree : Tree) : Reports tree (report text tree) := by
  unfold Reports report
  split
  · exact ⟨rfl, rfl⟩
  · exact ⟨rfl, rfl⟩

/-- Findings about sites are sorted as the sites are. -/
theorem exists_sort_map (about : Site → Finding) (sites : List Site) :
    ∃ sorted : List Site, sorted.Perm sites ∧
      Finding.sort (sites.map about) = sorted.map about := by
  refine ⟨sites.mergeSort fun first second =>
    (about first).span.start ≤ (about second).span.start, List.mergeSort_perm _ _, ?_⟩
  rw [Finding.sort, List.map_mergeSort]
  intros
  rfl

/-- In a tree whose flags are right, each missing or erroneous node that is below no other one is
reported once, and nothing else is: a missing node at its start, an erroneous one over its span. The
reports stand in the order of their starts, and there are none exactly if no node is faulty. -/
theorem syntactic_reports_top_faults (file : SourceFile) (root : Tree)
    (parsed : file.tree = some root) (flagged : root.Flagged) :
    (∃ faults : List Site, faults.Nodup ∧
      (∀ site, site ∈ faults ↔ root.HasSite site ∧ site.tree.isFaulty = true ∧
        ∀ outer, site.Below outer → outer.tree.isFaulty = false) ∧
      syntactic file = faults.map (fun fault => report file.cuts fault.tree) ∧
      ∀ fault ∈ faults, Reports fault.tree (report file.cuts fault.tree)) ∧
    (syntactic file).Pairwise (fun first second => first.span.start ≤ second.span.start) ∧
    (syntactic file = [] ↔ ∀ site, root.HasSite site → site.tree.isFaulty = false) := by
  have collected := syntactic_eq parsed flagged
  obtain ⟨faults, perm, sorted⟩ :=
    exists_sort_map (fun fault => report file.cuts fault.tree) (topFaults (.ofRoot root))
  have reported := collected.trans sorted
  refine ⟨⟨faults, ?_, ?_, reported, ?_⟩, ?_, ?_⟩
  · exact perm.nodup_iff.mpr ((Site.nodup_walk _ _).filter _)
  · exact fun site => perm.mem_iff.trans mem_topFaults_iff
  · exact fun fault _ => reports_report file.cuts fault.tree
  · rw [collected]
    exact Finding.inOrder_sort _
  · rw [reported, List.map_eq_nil_iff, ← List.perm_nil, perm.congr_left, List.perm_nil,
      topFaults_eq_nil_iff]

/-- `a @@ b(c`, with an error inside an error and a bracket put in. -/
private def faultyProgram : Tree :=
  .branch "program" "" 0 8
    [.branch "expression_statement" "" 0 1
        [.branch "identifier" "" 0 1 []],
      .written true false true "ERROR" "" 2 4 [.written true false true "ERROR" "" 2 3 []],
      .branch "expression_statement" "" 5 8
        [.branch "call_expression" "" 5 8
          [.branch "identifier" "" 5 6 [],
            .branch "arguments" "" 6 8
              [.branch "identifier" "" 7 8 [],
                .written false true false ")" "" 8 8 []]]]]

private def faultyProgramFindings : List Finding :=
  [.error ⟨2, 2⟩ 1012 "Unexpected token '@@'.", .error ⟨8, 0⟩ 1005 "')' expected."]

theorem syntactic_reports_top_faults_nested :
    let file : SourceFile :=
      { path := .ofText "/main.js", version := "1", kind := .js, text := "a @@ b(c"
        tree := some faultyProgram }
    faultyProgram.Flagged ∧
      syntactic file = faultyProgramFindings ∧
      ∃ faults : List Site, faults.length = 2 ∧
        ∀ site, site ∈ faults ↔ faultyProgram.HasSite site ∧ site.tree.isFaulty = true ∧
          ∀ outer, site.Below outer → outer.tree.isFaulty = false := by
  intro file
  have flagged : faultyProgram.Flagged := by decide +kernel
  have collected : errorsIn file.cuts faultyProgram = faultyProgramFindings := by decide +kernel
  have order : Finding.InOrder faultyProgramFindings := by decide
  have said : syntactic file = faultyProgramFindings := by
    rw [← Finding.sort_of_inOrder order, ← collected]
    rfl
  obtain ⟨⟨faults, -, top, reported, -⟩, -⟩ :=
    syntactic_reports_top_faults file faultyProgram rfl flagged
  refine ⟨flagged, said, faults, ?_, top⟩
  rw [← List.length_map fun fault : Site => report file.cuts fault.tree, ← reported, said]
  rfl

end Check

end InlineScript
