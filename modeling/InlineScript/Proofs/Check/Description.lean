import InlineScript.Proofs.Check.Redeclaration
import InlineScript.Proofs.Text.RoundTrip

/-!
The problems of a file, described without the order in which they are looked for: imports without a
module, names that are declared twice in a block, and values that do not fit their annotation. What
counts as the parts of a node is left open; with its named children, the problems found are those
described.
-/

namespace InlineScript

/-! ## Quotes -/

namespace Text

theorem byteLength_eq_one {text : List Char} (one : byteLength text = 1) :
    ∃ c : Char, text = [c] ∧ c.utf8Size = 1 := by
  match text with
  | [] => contradiction
  | [c] => exact ⟨c, rfl, by simpa [byteLength] using one⟩
  | c :: next :: rest =>
      have first := c.utf8Size_pos
      have second := next.utf8Size_pos
      simp only [byteLength] at one
      omega

/-- What is left of a text without its first and its last byte. -/
theorem slice?_inner_eq_some_iff {text inner : List Char} :
    slice? text 1 (byteLength text - 1) = some inner ↔
      ∃ first last : Char, first.utf8Size = 1 ∧ last.utf8Size = 1 ∧
        text = first :: (inner ++ [last]) := by
  constructor
  · intro cut
    rw [slice?, Option.ite_none_right_eq_some, Option.some.injEq, slice] at cut
    obtain ⟨⟨long, atFirst, atLast⟩, rfl⟩ := cut
    obtain ⟨rest, front⟩ := takeBytes_mono long text
    obtain ⟨first, firstOnly, firstSize⟩ := byteLength_eq_one atFirst
    have whole := takeBytes_append_dropBytes (byteLength text - 1) text
    obtain ⟨last, lastOnly, lastSize⟩ :
        ∃ c : Char, dropBytes (byteLength text - 1) text = [c] ∧ c.utf8Size = 1 := by
      apply byteLength_eq_one
      have sum := congrArg byteLength whole
      rw [byteLength_append] at sum
      rw [floorBoundary] at atLast
      omega
    have inner : dropBytes 1 (takeBytes (byteLength text - 1) text) = rest := by
      have dropped := dropBytes_byteLength [first] rest
      rw [← front, firstOnly]
      simpa [byteLength, firstSize] using dropped
    refine ⟨first, last, firstSize, lastSize, ?_⟩
    rw [inner, ← List.cons_append, ← List.singleton_append, ← firstOnly, front, ← lastOnly, whole]
  · intro spelled
    obtain ⟨first, last, firstSize, lastSize, rfl⟩ := spelled
    have cut := slice?_append [first] inner [last]
    have size : byteLength (first :: (inner ++ [last])) - 1 = 1 + byteLength inner := by
      simp only [byteLength, byteLength_append]
      omega
    rw [size]
    simpa [byteLength, firstSize] using cut

end Text

namespace Check

variable {parts : Tree → List Tree} {text : Text.Cuts} {root tree node : Tree}

/-- Whether a node names what a statement imports or exports from, or is the only part between the
brackets of a call of `require`. -/
inductive Specifies (parts : Tree → List Tree) (text : Text.Cuts) (tree node : Tree) : Prop where
  | statement (kind : tree.kind = "import_statement" ∨ tree.kind = "export_statement")
      (source : tree.field? "source" = some node)
  | call {function arguments : Tree} (kind : tree.kind = "call_expression")
      (called : tree.field? "function" = some function)
      (plain : function.kind = "identifier") (require : function.stringIn text = "require")
      (given : tree.field? "arguments" = some arguments) (only : parts arguments = [node])
      (isString : node.kind = "string")

/-- Whether a string has a name between two quotes of one byte. -/
def Quotes (text : Text.Cuts) (node : Tree) (name : String) : Prop :=
  node.kind = "string" ∧ ∃ opening closing : Char, opening.utf8Size = 1 ∧ closing.utf8Size = 1 ∧
    node.textIn text = opening :: (name.toList ++ [closing])

/-- Whether a statement or call imports a name through a string. -/
def Imports (parts : Tree → List Tree) (text : Text.Cuts) (tree : Tree) (entry : Tree × String) :
    Prop :=
  Specifies parts text tree entry.1 ∧ Quotes text entry.1 entry.2

/-- The imports that find no module at their places. Imports for which there is no place find none,
either. -/
def unanswered {Import : Type} : List (Option Module.Resolved) → List Import → List Import
  | _, [] => []
  | [], rest => rest
  | none :: slots, first :: rest => first :: unanswered slots rest
  | some _ :: slots, _ :: rest => unanswered slots rest

/-- Whether a node is a literal of a type, or has one as the first part in brackets. -/
inductive IsLiteral (parts : Tree → List Tree) : Tree → Primitive → Prop where
  | number {tree : Tree} (kind : tree.kind = "number") : IsLiteral parts tree .number
  | string {tree : Tree} (kind : tree.kind = "string" ∨ tree.kind = "template_string") :
      IsLiteral parts tree .string
  | boolean {tree : Tree} (kind : tree.kind = "true" ∨ tree.kind = "false") :
      IsLiteral parts tree .boolean
  | parenthesized {tree inner : Tree} {type : Primitive}
      (kind : tree.kind = "parenthesized_expression") (first : (parts tree).head? = some inner)
      (literal : IsLiteral parts inner type) : IsLiteral parts tree type

/-- Whether an annotation names a type with its first part. -/
def Annotates (parts : Tree → List Tree) (text : Text.Cuts) (typeNode : Tree)
    (type : Primitive) : Prop :=
  ∃ named, (parts typeNode).head? = some named ∧ named.kind = "predefined_type" ∧
    named.stringIn text = type.name

/-- Whether the value of a declarator is a literal of another type than its annotation, and a finding
says so at its name. -/
def Misfits (parts : Tree → List Tree) (text : Text.Cuts) (declarator : Tree) (finding : Finding) :
    Prop :=
  declarator.kind = "variable_declarator" ∧ ∃ name typeNode value actual expected,
    declarator.field? "name" = some name ∧ declarator.field? "type" = some typeNode ∧
      declarator.field? "value" = some value ∧ Annotates parts text typeNode expected ∧
      IsLiteral parts value actual ∧ actual ≠ expected ∧
      finding = notAssignable name actual expected

/-! ## Imports -/

theorem specifies_of_requireArgument? (kind : tree.kind = "call_expression")
    (found : requireArgument? text tree = some node) :
    Specifies Tree.namedChildren text tree node := by
  rw [requireArgument?, Option.bind_eq_bind, Option.bind_eq_some_iff] at found
  obtain ⟨function, called, found⟩ := found
  split at found
  · contradiction
  next isRequire =>
    rw [Option.bind_eq_some_iff] at found
    obtain ⟨arguments, given, found⟩ := found
    obtain ⟨plain, require⟩ := not_or.mp isRequire
    split at found
    next only listed =>
      rw [Option.ite_none_right_eq_some, Option.some.injEq] at found
      obtain ⟨isString, rfl⟩ := found
      exact .call kind called (not_not.mp plain) (not_not.mp require) given listed isString
    next => contradiction

theorem importNode?_eq_some_iff :
    importNode? text tree = some node ↔ Specifies Tree.namedChildren text tree node := by
  constructor
  · intro found
    unfold importNode? at found
    split at found
    next kind => exact .statement kind found
    next =>
      split at found
      next kind => exact specifies_of_requireArgument? kind found
      next => contradiction
  · intro specifies
    cases specifies with
    | statement kind source => rw [importNode?, if_pos kind, source]
    | call kind called plain require given only isString =>
        simp [importNode?, requireArgument?, kind, called, plain, require, given, only, isString]

theorem stringValue?_eq_some_iff {name : String} :
    stringValue? text node = some name ↔ Quotes text node name := by
  unfold stringValue? Quotes
  by_cases kind : node.kind = "string"
  · simp only [kind, if_true, true_and, ← Text.slice?_inner_eq_some_iff]
    cases node.textIn text with
    | nil => simp [Text.slice?, Text.byteLength]
    | cons first rest =>
        rw [List.isEmpty_cons, if_neg (by decide), Option.map_eq_some_iff]
        constructor
        · intro found
          obtain ⟨inner, cut, rfl⟩ := found
          rw [cut, String.toList_ofList]
        · intro cut
          exact ⟨name.toList, cut, String.ofList_toList⟩
  · simp [kind]

/-- What a statement or call imports, with the node that spells it. -/
def importOf? (text : Text.Cuts) (tree : Tree) : Option (Tree × String) :=
  (importNode? text tree).bind fun node => (stringValue? text node).map fun name => (node, name)

theorem importOf?_eq_some_iff {entry : Tree × String} :
    importOf? text tree = some entry ↔ Imports Tree.namedChildren text tree entry := by
  obtain ⟨node, name⟩ := entry
  simp only [importOf?, Option.bind_eq_some_iff, Option.map_eq_some_iff, Prod.mk.injEq, Imports,
    importNode?_eq_some_iff, stringValue?_eq_some_iff]
  constructor
  · intro found
    obtain ⟨_, specifies, _, quotes, rfl, rfl⟩ := found
    exact ⟨specifies, quotes⟩
  · intro found
    exact ⟨node, found.1, name, found.2, rfl, rfl⟩

@[simp] theorem unanswered_nil {Import : Type} (imported : List Import) :
    unanswered [] imported = imported := by
  cases imported <;> rfl

/-- Imports are looked up by their numbers. -/
theorem unanswered_drop {Import : Type} (slots : List (Option Module.Resolved)) (number : Nat)
    (imported : List Import) :
    ((imported.zipIdx number).filter fun entry => slots[entry.2]?.join.isNone).map (·.1) =
      unanswered (slots.drop number) imported := by
  induction imported generalizing number with
  | nil => simp [unanswered]
  | cons first rest ih =>
      rw [List.zipIdx_cons, List.filter_cons]
      by_cases inside : number < slots.length
      · rw [List.drop_eq_getElem_cons inside, List.getElem?_eq_getElem inside]
        cases slots[number] with
        | none => simpa [unanswered] using ih (number + 1)
        | some module => simpa [unanswered] using ih (number + 1)
      · have beyond : slots.length ≤ number := Nat.not_lt.mp inside
        have rest := ih (number + 1)
        rw [List.drop_eq_nil_of_le (by omega)] at rest
        simpa [List.getElem?_eq_none beyond, List.drop_eq_nil_of_le beyond] using rest

theorem unresolvedImports_eq (text : Text.Cuts)
    (resolve : List String → List (Option Module.Resolved)) (root : Tree) :
    unresolvedImports text resolve root =
      (unanswered (resolve ((imports text root).map (·.2))) (imports text root)).map fun entry =>
        notFound entry.1 entry.2 := by
  have numbered := unanswered_drop (resolve ((imports text root).map (·.2))) 0 (imports text root)
  rw [List.drop_zero] at numbered
  rw [unresolvedImports, ← numbered, List.map_map]
  rfl

/-! ## Annotations -/

theorem ofName?_eq_some_iff {name : String} {type : Primitive} :
    Primitive.ofName? name = some type ↔ name = type.name := by
  unfold Primitive.ofName?
  cases type <;> (split <;> simp_all [Primitive.name])

theorem annotatedType?_eq_some_iff {type : Primitive} :
    annotatedType? text node = some type ↔ Annotates Tree.namedChildren text node type := by
  unfold annotatedType? Annotates
  split
  next none => simp [none]
  next named rest parts =>
    rw [parts, Option.ite_none_right_eq_some, ofName?_eq_some_iff]
    simp

mutual

theorem isLiteral_of_literalType? {type : Primitive} :
    (tree : Tree) → literalType? tree = some type → IsLiteral Tree.namedChildren tree type
  | .node info children, found => by
      rw [literalType?] at found
      split at found
      next kind =>
        obtain ⟨inner, first, literal⟩ := exists_of_firstLiteralType? children found
        exact .parenthesized kind first literal
      next =>
        unfold Primitive.ofLiteral? at found
        split at found
        next kind => cases found; exact .number kind
        next kind => cases found; exact .string (.inl kind)
        next kind => cases found; exact .string (.inr kind)
        next kind => cases found; exact .boolean (.inl kind)
        next kind => cases found; exact .boolean (.inr kind)
        next => contradiction

theorem exists_of_firstLiteralType? {type : Primitive} :
    (trees : List Tree) → firstLiteralType? trees = some type →
      ∃ inner, (trees.filter (·.info.named)).head? = some inner ∧
        IsLiteral Tree.namedChildren inner type
  | [], found => by contradiction
  | tree :: rest, found => by
      rw [firstLiteralType?] at found
      split at found
      next named => exact ⟨tree, by simp [named], isLiteral_of_literalType? tree found⟩
      next anonymous =>
        rw [List.filter_cons_of_neg (by exact anonymous)]
        exact exists_of_firstLiteralType? rest found

end

theorem firstLiteralType?_eq (trees : List Tree) :
    firstLiteralType? trees = (trees.filter (·.info.named)).head?.bind literalType? := by
  induction trees with
  | nil => rfl
  | cons tree rest ih =>
      rw [firstLiteralType?, List.filter_cons]
      split
      · rfl
      · exact ih

theorem literalType?_eq (tree : Tree) :
    literalType? tree =
      if tree.kind = "parenthesized_expression" then tree.namedChildren.head?.bind literalType?
      else Primitive.ofLiteral? tree.kind := by
  cases tree with
  | node info children =>
      rw [literalType?, firstLiteralType?_eq]
      rfl

theorem literalType?_of_isLiteral {type : Primitive}
    (literal : IsLiteral Tree.namedChildren tree type) : literalType? tree = some type := by
  induction literal with
  | number kind => simp [literalType?_eq, kind, Primitive.ofLiteral?]
  | string kind =>
      rcases kind with kind | kind <;> simp [literalType?_eq, kind, Primitive.ofLiteral?]
  | boolean kind =>
      rcases kind with kind | kind <;> simp [literalType?_eq, kind, Primitive.ofLiteral?]
  | parenthesized kind first _ ih => rw [literalType?_eq, if_pos kind, first, Option.bind_some, ih]

theorem literalType?_eq_some_iff {type : Primitive} :
    literalType? tree = some type ↔ IsLiteral Tree.namedChildren tree type :=
  ⟨isLiteral_of_literalType? tree, literalType?_of_isLiteral⟩

theorem mismatch?_eq_some_iff {finding : Finding} :
    mismatch? text tree = some finding ↔ Misfits Tree.namedChildren text tree finding := by
  unfold mismatch? Misfits
  by_cases kind : tree.kind = "variable_declarator"
  · simp only [kind, if_true, true_and, Option.bind_eq_bind, Option.bind_eq_some_iff,
      Option.ite_none_left_eq_some, Option.some.injEq, annotatedType?_eq_some_iff,
      literalType?_eq_some_iff]
    constructor
    · intro found
      obtain ⟨name, named, typeNode, annotated, value, has, expected, type, actual, literal,
        differs, rfl⟩ := found
      exact ⟨name, typeNode, value, actual, expected, named, annotated, has, type, literal,
        differs, rfl⟩
    · intro found
      obtain ⟨name, typeNode, value, actual, expected, named, annotated, has, type, literal,
        differs, rfl⟩ := found
      exact ⟨name, named, typeNode, annotated, value, has, expected, type, actual, literal,
        differs, rfl⟩
  · simp [kind]

/-! ## All together -/

/-- Whether entries are all named sites of a tree with what holds of them, in the order of the
tree. -/
def Lists {Value : Type} (root : Tree) (holds : Tree → Value → Prop)
    (entries : List (Site × Value)) : Prop :=
  (entries.map (·.1)).Sublist root.sites ∧
    ∀ entry, entry ∈ entries ↔ root.HasNamedSite entry.1 ∧ holds entry.1.tree entry.2

/-- The sites of a list for which there is a value, with it. -/
def valued {Value : Type} (value? : Tree → Option Value) (sites : List Site) :
    List (Site × Value) :=
  sites.filterMap fun site => (value? site.tree).map (Prod.mk site)

section

variable {Value : Type} {holds : Tree → Value → Prop} {value? : Tree → Option Value}

theorem sublist_valued (value? : Tree → Option Value) (sites : List Site) :
    ((valued value? sites).map (·.1)).Sublist sites := by
  induction sites with
  | nil => exact List.Sublist.slnil
  | cons site rest ih =>
      rw [valued, List.filterMap_cons]
      cases value? site.tree with
      | none => exact ih.cons site
      | some value => exact ih.cons_cons site

theorem map_snd_valued (value? : Tree → Option Value) (sites : List Site) :
    (valued value? sites).map (·.2) = sites.filterMap fun site => value? site.tree := by
  rw [valued, List.map_filterMap]
  congr 1
  funext site
  cases value? site.tree <;> rfl

theorem lists_valued (spec : ∀ tree value, value? tree = some value ↔ holds tree value)
    (root : Tree) : Lists root holds (valued value? root.sites) := by
  refine ⟨sublist_valued value? root.sites, fun entry => ?_⟩
  obtain ⟨site, value⟩ := entry
  simp only [valued, List.mem_filterMap, Option.map_eq_some_iff, Prod.mk.injEq, spec,
    Tree.mem_sites_iff]
  constructor
  · intro found
    obtain ⟨_, has, _, held, rfl, rfl⟩ := found
    exact ⟨has, held⟩
  · intro found
    exact ⟨site, found.1, value, found.2, rfl, rfl⟩

end

/-- The places of a tree at which a file has problems, imports of any module among them. -/
structure Places (parts : Tree → List Tree) (file : SourceFile) (root : Tree) where
  imported : List (Site × Tree × String)
  names : List Site
  misfits : List (Site × Finding)
  lists_imported : Lists root (Imports parts file.cuts) imported
  nodup_names : names.Nodup
  mem_names : ∀ name, name ∈ names ↔ Redeclared file.cuts root name
  lists_misfits : Lists root
    (fun tree finding => file.isTyped = true ∧ Misfits parts file.cuts tree finding) misfits

/-- What is to be said if imports are looked up in a given way. -/
def Places.findings {parts : Tree → List Tree} {file : SourceFile} {root : Tree}
    (places : Places parts file root) (resolve : List String → List (Option Module.Resolved)) :
    List Finding :=
  (unanswered (resolve (places.imported.map (·.2.2))) (places.imported.map (·.2))).map
      (fun entry => notFound entry.1 entry.2)
    ++ places.names.map (fun name => redeclared file.cuts name.tree)
    ++ places.misfits.map (·.2)

/-- Where the problems of a file are found. -/
def placesOf (file : SourceFile) (root : Tree) : Places Tree.namedChildren file root where
  imported := valued (importOf? file.cuts) root.sites
  names := redeclaredSites file.cuts root
  misfits := if file.isTyped then valued (mismatch? file.cuts) root.sites else []
  lists_imported := lists_valued (fun _ _ => importOf?_eq_some_iff) root
  nodup_names := nodup_redeclaredSites file.cuts root
  mem_names := fun _ => mem_redeclaredSites_iff
  lists_misfits := by
    cases typed : file.isTyped with
    | true => simpa using lists_valued (fun _ _ => mismatch?_eq_some_iff) root
    | false => simp [Lists]

theorem semantic_eq {file : SourceFile} (parsed : file.tree = some root)
    (resolve : List String → List (Option Module.Resolved)) :
    semantic resolve file = Finding.sort ((placesOf file root).findings resolve) := by
  have imported : (placesOf file root).imported.map (·.2) = imports file.cuts root :=
    map_snd_valued _ _
  have misfits : (placesOf file root).misfits.map (·.2) =
      if file.isTyped then mismatches file.cuts root else [] := by
    simp only [placesOf]
    split
    · exact map_snd_valued _ _
    · rfl
  have names : (placesOf file root).imported.map (·.2.2) = (imports file.cuts root).map (·.2) := by
    rw [← imported, List.map_map]
    rfl
  simp only [semantic, parsed]
  rw [Places.findings, names, imported, misfits, unresolvedImports_eq, redeclarations_eq]
  rfl

end Check

end InlineScript
