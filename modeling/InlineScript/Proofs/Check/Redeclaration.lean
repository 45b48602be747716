import Mathlib.Data.List.Flatten
import InlineScript.Proofs.Check.Iteration

/-!
Names that are declared twice, as places in a tree. A name belongs to one block, and is reported once
if another name of the block has its text.
-/

namespace InlineScript.Check

variable {text : Text.Cuts} {root : Tree}
variable {block other statement declaration name : Site}

/-- Whether a statement is a declaration by `let` or `const`, or exports it. -/
def Gives (statement declaration : Site) : Prop :=
  declaration.tree.kind = "lexical_declaration" ∧
    (declaration = statement ∨ statement.tree.kind = "export_statement" ∧
      statement.field? "declaration" = some declaration)

/-- Whether a name is that of a declarator of a declaration. -/
def Introduces (declaration name : Site) : Prop :=
  ∃ declarator ∈ declaration.namedChildren, declarator.tree.kind = "variable_declarator" ∧
    declarator.field? "name" = some name ∧ name.tree.kind = "identifier"

/-- Whether a statement of a block declares a name or exports its declaration. -/
def Declares (block name : Site) : Prop :=
  ∃ statement ∈ block.namedChildren, ∃ declaration,
    Gives statement declaration ∧ Introduces declaration name

/-- Whether a name is declared in a block that declares it elsewhere, too. -/
def Redeclared (text : Text.Cuts) (root : Tree) (name : Site) : Prop :=
  ∃ block, root.HasNamedSite block ∧ isBlock block.tree = true ∧ Declares block name ∧
    ∃ other, other ≠ name ∧ Declares block other ∧ other.tree.textIn text = name.tree.textIn text

/-! ## Sites of names -/

def declarationSite? (statement : Site) : Option Site :=
  if statement.tree.kind = "lexical_declaration" then some statement
  else if statement.tree.kind = "export_statement" then
    (statement.field? "declaration").filter (·.tree.kind == "lexical_declaration")
  else none

def nameSite? (declarator : Site) : Option Site :=
  if declarator.tree.kind = "variable_declarator" then
    (declarator.field? "name").filter (·.tree.kind == "identifier")
  else
    none

def nameSites (declaration : Site) : List Site :=
  declaration.namedChildren.filterMap nameSite?

/-- The sites of the names that the statements of a block declare. -/
def blockSites (block : Site) : List Site :=
  (block.namedChildren.filterMap declarationSite?).flatMap nameSites

theorem map_filter_field? (site : Site) (field kind : String) :
    ((site.field? field).filter (·.tree.kind == kind)).map Site.tree =
      (site.tree.field? field).filter (·.kind == kind) := by
  rw [← Site.map_tree_field?, Option.filter_map]
  rfl

theorem map_tree_declarationSite? (statement : Site) :
    (declarationSite? statement).map Site.tree = declaration? statement.tree := by
  unfold declarationSite? declaration?
  split
  · rfl
  · split
    · exact map_filter_field? _ _ _
    · rfl

theorem map_tree_nameSites (declaration : Site) :
    (nameSites declaration).map Site.tree = declaredNames declaration.tree := by
  rw [nameSites, declaredNames, ← Site.map_tree_namedChildren, List.map_filterMap,
    List.filterMap_map]
  congr 1
  funext declarator
  unfold nameSite?
  simp only [Function.comp_apply]
  split
  · exact map_filter_field? _ _ _
  · rfl

theorem map_tree_blockSites (block : Site) :
    (blockSites block).map Site.tree = blockNames block.tree := by
  have declarations : block.tree.namedChildren.filterMap declaration? =
      (block.namedChildren.filterMap declarationSite?).map Site.tree := by
    rw [← Site.map_tree_namedChildren, List.filterMap_map, List.map_filterMap]
    congr 1
    funext statement
    exact (map_tree_declarationSite? statement).symm
  rw [blockSites, blockNames, declarations, List.map_flatMap, List.flatMap_map]
  congr 1
  funext declaration
  exact map_tree_nameSites declaration

theorem declarationSite?_eq_some_iff :
    declarationSite? statement = some declaration ↔ Gives statement declaration := by
  unfold declarationSite? Gives
  split
  next kind =>
    have noExport : statement.tree.kind ≠ "export_statement" := by rw [kind]; decide
    rw [Option.some.injEq, eq_comm]
    constructor
    · intro same
      exact ⟨same ▸ kind, .inl same⟩
    · intro gives
      exact gives.2.resolve_right fun exported => noExport exported.1
  next kind =>
    have differs (declares : declaration.tree.kind = "lexical_declaration") :
        declaration ≠ statement := fun same => kind (same ▸ declares)
    split
    · rw [Option.filter_eq_some_iff, beq_iff_eq]
      grind
    · grind

theorem mem_nameSites_iff : name ∈ nameSites declaration ↔ Introduces declaration name := by
  rw [nameSites, List.mem_filterMap, Introduces]
  refine exists_congr fun declarator => and_congr_right fun _ => ?_
  unfold nameSite?
  split
  next kind => rw [Option.filter_eq_some_iff, beq_iff_eq, and_iff_right kind]
  next kind => simp [kind]

theorem mem_blockSites_iff : name ∈ blockSites block ↔ Declares block name := by
  simp only [blockSites, Declares, List.mem_flatMap, List.mem_filterMap,
    declarationSite?_eq_some_iff, mem_nameSites_iff]
  constructor
  · intro found
    obtain ⟨declaration, ⟨statement, listed, gives⟩, introduces⟩ := found
    exact ⟨statement, listed, declaration, gives, introduces⟩
  · intro found
    obtain ⟨statement, listed, declaration, gives, introduces⟩ := found
    exact ⟨declaration, ⟨statement, listed, gives⟩, introduces⟩

/-! ## Each name once -/

theorem parent?_of_mem_namedChildren {site child : Site} (listed : child ∈ site.namedChildren) :
    child.parent? = some site :=
  Site.parent?_of_mem_children (List.mem_filter.mp listed).1

theorem parent?_of_field? {site child : Site} {field : String}
    (has : site.field? field = some child) : child.parent? = some site :=
  Site.parent?_of_mem_children (List.mem_of_find?_eq_some has)

/-- A name is two levels below its declaration. -/
theorem Introduces.parent? (introduces : Introduces declaration name) :
    name.parent?.bind Site.parent? = some declaration := by
  obtain ⟨declarator, listed, -, named, -⟩ := introduces
  rw [parent?_of_field? named, Option.bind_some, parent?_of_mem_namedChildren listed]

/-- A declaration is one or two levels below its block, by what it stands in. -/
theorem Gives.parent? (listed : statement ∈ block.namedChildren)
    (gives : Gives statement declaration) :
    declaration.parent? = some block ∨ declaration.parent? = some statement ∧
      statement.tree.kind = "export_statement" := by
  obtain ⟨-, rfl | ⟨exported, has⟩⟩ := gives
  · exact .inl (parent?_of_mem_namedChildren listed)
  · exact .inr ⟨parent?_of_field? has, exported⟩

theorem isBlock_ne_export (isBlock : isBlock block.tree = true) :
    block.tree.kind ≠ "export_statement" := by
  intro exported
  rw [Check.isBlock, exported] at isBlock
  exact absurd isBlock (by decide)

/-- A name is declared in one block. -/
theorem Declares.block_eq (inBlock : Declares block name) (isBlock : isBlock block.tree = true)
    (inOther : Declares other name) (isOther : Check.isBlock other.tree = true) :
    block = other := by
  obtain ⟨statement, listed, declaration, gives, introduces⟩ := inBlock
  obtain ⟨statement', listed', declaration', gives', introduces'⟩ := inOther
  obtain rfl : declaration = declaration' :=
    Option.some.inj (introduces.parent?.symm.trans introduces'.parent?)
  have one := isBlock_ne_export isBlock
  have two := isBlock_ne_export isOther
  have up := parent?_of_mem_namedChildren listed
  have up' := parent?_of_mem_namedChildren listed'
  grind [gives.parent? listed, gives'.parent? listed']

/-- What is found below the children of a site stands in the order of a walk. -/
theorem flatMap_namedChildren_sublist {found : Site → List Site}
    (below : ∀ child, (found child).Sublist (child.walk fun _ => true)) (site : Site) :
    (site.namedChildren.flatMap found).Sublist (site.walk fun _ => true) := by
  rw [Site.walk_eq, List.filter_true]
  have named : (site.namedChildren.flatMap found).Sublist (site.children.flatMap found) :=
    List.filter_sublist.flatMap found
  exact (named.trans (.flatMap_right _ fun child _ => below child)).trans (List.sublist_cons_self _ _)

theorem walk_sublist_of_mem_children {site child : Site} (listed : child ∈ site.children) :
    (child.walk fun _ => true).Sublist (site.walk fun _ => true) := by
  rw [site.walk_eq, List.filter_true]
  have one := (List.singleton_sublist.mpr listed).flatMap (Site.walk fun _ => true)
  rw [List.flatMap_singleton] at one
  exact one.trans (List.sublist_cons_self _ _)

theorem nameSites_sublist (declaration : Site) :
    (nameSites declaration).Sublist (declaration.walk fun _ => true) := by
  rw [nameSites, List.filterMap_eq_flatMap_toList]
  apply flatMap_namedChildren_sublist
  intro declarator
  cases found : nameSite? declarator with
  | none => exact List.nil_sublist _
  | some name =>
      have isChild : name ∈ declarator.children := by
        unfold nameSite? at found
        split at found
        · exact List.mem_of_find?_eq_some (Option.filter_eq_some_iff.mp found).1
        · contradiction
      exact List.singleton_sublist.mpr
        ((walk_sublist_of_mem_children isChild).subset (name.mem_walk_self _))

theorem blockSites_sublist (block : Site) :
    (blockSites block).Sublist (block.walk fun _ => true) := by
  rw [blockSites, List.filterMap_eq_flatMap_toList, List.flatMap_assoc]
  apply flatMap_namedChildren_sublist
  intro statement
  cases found : declarationSite? statement with
  | none => exact List.nil_sublist _
  | some declaration =>
      rw [Option.toList_some, List.flatMap_singleton]
      refine (nameSites_sublist declaration).trans ?_
      obtain ⟨-, rfl | ⟨-, has⟩⟩ := declarationSite?_eq_some_iff.mp found
      · exact List.Sublist.refl _
      · exact walk_sublist_of_mem_children (List.mem_of_find?_eq_some has)

theorem nodup_blockSites (block : Site) : (blockSites block).Nodup :=
  (blockSites_sublist block).nodup (block.nodup_walk _)

/-! ## Names with the text of another -/

/-- The sites of the names that a block declares more than once. -/
def repeatedSites (text : Text.Cuts) (block : Site) : List Site :=
  (blockSites block).filter fun name =>
    1 < (namesUnder text (blockNames block.tree) (name.tree.textIn text)).length

theorem map_tree_repeatedSites (text : Text.Cuts) (block : Site) :
    (repeatedSites text block).map Site.tree = repeatedNames text block.tree := by
  rw [repeatedSites, repeatedNames_eq]
  conv_rhs => rw [← map_tree_blockSites]
  rw [List.filter_map, map_tree_blockSites]
  rfl

/-- Of different things, more than one hold exactly if another one than the given one does. -/
theorem one_lt_length_filter_iff {sites : List Site} (distinct : sites.Nodup)
    {holds : Site → Bool} (listed : name ∈ sites) (own : holds name = true) :
    1 < (sites.filter holds).length ↔ ∃ other ∈ sites, other ≠ name ∧ holds other = true := by
  have member : name ∈ sites.filter holds := List.mem_filter.mpr ⟨listed, own⟩
  constructor
  · intro more
    by_contra none
    have single : sites.filter holds ⊆ [name] := by
      intro other otherMember
      obtain ⟨otherListed, otherHolds⟩ := List.mem_filter.mp otherMember
      by_contra differs
      exact none ⟨other, otherListed, mt List.mem_singleton.mpr differs, otherHolds⟩
    exact absurd more (Nat.not_lt.mpr ((distinct.filter holds).length_le_of_subset single))
  · intro another
    obtain ⟨other, otherListed, differs, otherHolds⟩ := another
    have pair : [other, name].Nodup := by simp [differs]
    apply pair.length_le_of_subset
    intro either
    rw [List.mem_pair]
    intro same
    rcases same with rfl | rfl
    · exact List.mem_filter.mpr ⟨otherListed, otherHolds⟩
    · exact member

theorem mem_repeatedSites_iff :
    name ∈ repeatedSites text block ↔ Declares block name ∧
      ∃ other, other ≠ name ∧ Declares block other ∧
        other.tree.textIn text = name.tree.textIn text := by
  rw [repeatedSites, List.mem_filter, mem_blockSites_iff]
  refine and_congr_right fun declares => ?_
  have listed := mem_blockSites_iff.mpr declares
  rw [decide_eq_true_iff, ← map_tree_blockSites, namesUnder, List.filter_map, List.length_map,
    one_lt_length_filter_iff (nodup_blockSites block) listed (by simp)]
  refine exists_congr fun other => ?_
  rw [mem_blockSites_iff, Function.comp_apply, beq_iff_eq]
  exact and_left_comm

/-- The sites of all names that are declared twice in their block. -/
def redeclaredSites (text : Text.Cuts) (root : Tree) : List Site :=
  (root.sites.filter fun block => isBlock block.tree).flatMap (repeatedSites text)

theorem mem_redeclaredSites_iff :
    name ∈ redeclaredSites text root ↔ Redeclared text root name := by
  simp only [redeclaredSites, List.mem_flatMap, List.mem_filter, Tree.mem_sites_iff,
    mem_repeatedSites_iff, Redeclared, and_assoc]

theorem nodup_redeclaredSites (text : Text.Cuts) (root : Tree) :
    (redeclaredSites text root).Nodup := by
  rw [redeclaredSites, List.nodup_flatMap]
  refine ⟨fun block _ => (nodup_blockSites block).filter _, ?_⟩
  refine (root.nodup_sites.filter _).imp_of_mem ?_
  intro first second inFirst inSecond apart name firstHas secondHas
  have firstDeclares := (mem_repeatedSites_iff.mp firstHas).1
  have secondDeclares := (mem_repeatedSites_iff.mp secondHas).1
  exact apart (firstDeclares.block_eq (List.mem_filter.mp inFirst).2 secondDeclares
    (List.mem_filter.mp inSecond).2)

theorem redeclarations_eq (text : Text.Cuts) (root : Tree) :
    redeclarations text root =
      (redeclaredSites text root).map fun name => redeclared text name.tree := by
  rw [redeclarations, redeclaredSites]
  induction root.sites with
  | nil => rfl
  | cons block rest ih =>
      rw [List.flatMap_cons, List.filter_cons, ih]
      split
      · rw [List.flatMap_cons, List.map_append, ← map_tree_repeatedSites, List.map_map]
        rfl
      · rfl

end InlineScript.Check
