import InlineScript.Check.Finding
import InlineScript.Module.Resolve
import InlineScript.Tree.Source

/-!
Problems of meaning: imports that mean no file, names declared twice in a block, and values that do
not fit their annotation.
-/

namespace InlineScript.Check

def notFoundCode : Nat := 2307

def notAssignableCode : Nat := 2322

def redeclaredCode : Nat := 2451

variable (text : Text.Cuts)

/-! ## Imports -/

/-- The argument of a call of `require` with one text. -/
def requireArgument? (call : Tree) : Option Tree := do
  let function ← call.field? "function"
  if function.kind ≠ "identifier" ∨ function.stringIn text ≠ "require" then
    none
  else
    let arguments ← call.field? "arguments"
    match arguments.namedChildren with
    | [only] => if only.kind = "string" then some only else none
    | _ => none

/-- The node that names what a statement or call imports. -/
def importNode? (tree : Tree) : Option Tree :=
  if tree.kind = "import_statement" ∨ tree.kind = "export_statement" then tree.field? "source"
  else if tree.kind = "call_expression" then requireArgument? text tree
  else none

/-- A string between its quotes. -/
def stringValue? (tree : Tree) : Option String :=
  if tree.kind = "string" then
    let spelled := tree.textIn text
    if spelled.isEmpty then none
    else (Text.slice? spelled 1 (Text.byteLength spelled - 1)).map String.ofList
  else
    none

/-- The names a file imports, with the nodes that spell them. -/
def imports (root : Tree) : List (Tree × String) :=
  root.sites.filterMap fun site =>
    (importNode? text site.tree).bind fun node =>
      (stringValue? text node).map fun name => (node, name)

def notFound (node : Tree) (name : String) : Finding :=
  Finding.error node.span notFoundCode
    ("Cannot find module '" ++ name ++ "' or its corresponding type declarations.")

/-- Imports that mean no file. All names are asked for at once; a name without an answer at its
place means none. -/
def unresolvedImports (resolve : List String → List (Option Module.Resolved)) (root : Tree) :
    List Finding :=
  let found := imports text root
  let slots := resolve (found.map (·.2))
  (found.zipIdx.filter fun (_, number) => slots[number]?.join.isNone).map
    fun ((node, name), _) => notFound node name

/-! ## Names declared twice -/

/-- Nodes whose statements share one scope for `let` and `const`. -/
def isBlock (tree : Tree) : Bool :=
  tree.kind == "program" || tree.kind == "statement_block" || tree.kind == "switch_body"

/-- The `let` or `const` declaration that a statement is or exports. -/
def declaration? (statement : Tree) : Option Tree :=
  if statement.kind = "lexical_declaration" then some statement
  else if statement.kind = "export_statement" then
    (statement.field? "declaration").filter (·.kind == "lexical_declaration")
  else none

/-- The names that declarators of a declaration introduce. -/
def declaredNames (declaration : Tree) : List Tree :=
  declaration.namedChildren.filterMap fun declarator =>
    if declarator.kind = "variable_declarator" then
      (declarator.field? "name").filter (·.kind == "identifier")
    else
      none

/-- The names that the statements of a block declare. -/
def blockNames (block : Tree) : List Tree :=
  (block.namedChildren.filterMap declaration?).flatMap declaredNames

def redeclared (name : Tree) : Finding :=
  Finding.error name.span redeclaredCode
    ("Cannot redeclare block-scoped variable '" ++ name.stringIn text ++ "'.")

/-- The names of a block that are declared more than once. -/
def repeatedNames (block : Tree) : List Tree :=
  let names := (blockNames block).map fun name => (name, name.textIn text)
  (names.filter fun (_, spelled) => 1 < names.countP fun (_, other) => other == spelled).map (·.1)

def redeclarations (root : Tree) : List Finding :=
  root.sites.flatMap fun site =>
    if isBlock site.tree then (repeatedNames text site.tree).map (redeclared text) else []

/-! ## Annotations -/

/-- The types that are told apart. -/
inductive Primitive where
  | number
  | string
  | boolean
deriving DecidableEq, Repr

namespace Primitive

def name : Primitive → String
  | number => "number"
  | string => "string"
  | boolean => "boolean"

def ofName? : String → Option Primitive
  | "number" => some number
  | "string" => some string
  | "boolean" => some boolean
  | _ => none

/-- The type of a literal by the kind of its node. -/
def ofLiteral? : String → Option Primitive
  | "number" => some number
  | "string" | "template_string" => some string
  | "true" | "false" => some boolean
  | _ => none

end Primitive

mutual

/-- The type of a literal, parentheses around it left aside. -/
def literalType? : Tree → Option Primitive
  | .node info children =>
      if info.kind = "parenthesized_expression" then firstLiteralType? children
      else Primitive.ofLiteral? info.kind

/-- The type of the first named node, if that is a literal. -/
def firstLiteralType? : List Tree → Option Primitive
  | [] => none
  | tree :: rest => if tree.info.named then literalType? tree else firstLiteralType? rest

end

/-- The type that an annotation names. -/
def annotatedType? (node : Tree) : Option Primitive :=
  match node.namedChildren with
  | [] => none
  | type :: _ =>
      if type.kind = "predefined_type" then Primitive.ofName? (type.stringIn text) else none

def notAssignable (name : Tree) (actual expected : Primitive) : Finding :=
  Finding.error name.span notAssignableCode
    ("Type '" ++ actual.name ++ "' is not assignable to type '" ++ expected.name ++ "'.")

/-- What is wrong with the value of an annotated declarator. -/
def mismatch? (declarator : Tree) : Option Finding :=
  if declarator.kind = "variable_declarator" then do
    let name ← declarator.field? "name"
    let annotated ← declarator.field? "type"
    let value ← declarator.field? "value"
    let expected ← annotatedType? text annotated
    let actual ← literalType? value
    if actual = expected then none else some (notAssignable name actual expected)
  else
    none

def mismatches (root : Tree) : List Finding :=
  root.sites.filterMap fun site => mismatch? text site.tree

/-! ## All together -/

/-- The problems of a file by their start. Annotations count in typed files only. -/
def semantic (resolve : List String → List (Option Module.Resolved)) (file : SourceFile) :
    List Finding :=
  match file.tree with
  | none => []
  | some root =>
      let text := file.cuts
      Finding.sort
        (unresolvedImports text resolve root ++ redeclarations text root
          ++ if file.isTyped then mismatches text root else [])

end InlineScript.Check
