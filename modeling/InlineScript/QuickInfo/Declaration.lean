import InlineScript.Tree.Basic

/-!
Declarations of a tree: which node declares which name, and where the name can be seen.
-/

namespace InlineScript.QuickInfo

inductive DeclarationKind where
  | binding
  | function
  | classType
  | interface
  | typeAlias
  | enumeration
  | parameter
  | imported
deriving DecidableEq, Repr

structure Declaration where
  kind : DeclarationKind
  /-- The name that is declared. -/
  name : Site
  /-- The node that declares it. -/
  node : Site
  /-- The node within which it can be seen. -/
  scope : Site

/-- Nodes that open a scope. -/
def opensScope (kind : String) : Bool :=
  ["statement_block", "program", "class_body", "switch_body"].contains kind

/-- The nearest node above that opens a scope, or the root. -/
def scopeAbove (tree : Tree) : List (Tree × Nat) → Site
  | [] => { tree, above := [] }
  | (parent, _) :: above =>
      if opensScope parent.kind then { tree := parent, above } else scopeAbove parent above

def blockScope (site : Site) : Site :=
  scopeAbove site.tree site.above

/-- The function that a list of parameters belongs to. -/
def functionScope (parameters : Site) : Site :=
  parameters.parent?.getD parameters

def isIdentifier (site : Site) : Bool :=
  site.tree.kind == "identifier"

/-- A declaration of the name in a role, seen in the block around it. -/
def named (kind : DeclarationKind) (site : Site) : List Declaration :=
  match site.field? "name" with
  | none => []
  | some name => [{ kind, name, node := site, scope := blockScope site }]

/-- A parameter with an annotation. -/
def annotatedParameter (site : Site) : List Declaration :=
  match (site.field? "pattern").filter isIdentifier with
  | none => []
  | some name =>
      [{ kind := .parameter, name, node := site
         scope := (site.parent?.map functionScope).getD site }]

/-- The name of a parameter without annotation: the parameter, or what stands before a default. -/
def plainParameterName? (site : Site) : Option Site :=
  if site.tree.kind = "identifier" then some site
  else if site.tree.kind = "assignment_pattern" then (site.field? "left").filter isIdentifier
  else none

/-- The parameters without annotation of a list. -/
def plainParameters (site : Site) : List Declaration :=
  site.namedChildren.filterMap fun parameter =>
    (plainParameterName? parameter).map fun name =>
      { kind := .parameter, name, node := parameter, scope := functionScope site }

/-- The one parameter of a function written without parentheses. -/
def soleParameter (site : Site) : List Declaration :=
  match (site.field? "parameter").filter isIdentifier with
  | none => []
  | some name => [{ kind := .parameter, name, node := name, scope := site }]

/-- A name that is imported, by its local name. -/
def importedName (root : Site) (site : Site) : List Declaration :=
  match (site.field? "alias").or (site.field? "name") with
  | none => []
  | some name => [{ kind := .imported, name, node := site, scope := root }]

/-- A module imported as a whole or by its default. -/
def importedWhole (root : Site) (site : Site) : List Declaration :=
  (site.namedChildren.filter isIdentifier).map fun name =>
    { kind := .imported, name, node := site, scope := root }

/-- What a node declares. -/
def declarationsAt (root : Site) (site : Site) : List Declaration :=
  match site.tree.kind with
  | "variable_declarator" => named .binding site
  | "function_declaration" | "generator_function_declaration" => named .function site
  | "class_declaration" => named .classType site
  | "interface_declaration" => named .interface site
  | "type_alias_declaration" => named .typeAlias site
  | "enum_declaration" => named .enumeration site
  | "required_parameter" | "optional_parameter" => annotatedParameter site
  | "formal_parameters" => plainParameters site
  | "arrow_function" => soleParameter site
  | "import_specifier" => importedName root site
  | "import_clause" | "namespace_import" => importedWhole root site
  | _ => []

/-- The declarations of a tree, those of a node before those below it. -/
def declarations (root : Tree) : List Declaration :=
  root.sites.flatMap (declarationsAt (Site.ofRoot root))

end InlineScript.QuickInfo
