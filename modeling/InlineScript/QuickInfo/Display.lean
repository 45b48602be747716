import InlineScript.Check.Meaning
import InlineScript.QuickInfo.Declaration
import InlineScript.Text.Blank
import InlineScript.Text.Lines

/-!
Declarations in short, and the comments that go with them. Types are those that the declaration
spells or that its literal value has.
-/

namespace InlineScript.QuickInfo

variable (text : Text.Cuts)

/-- The type that an annotation in a role spells, without its colon. -/
def spelledType? (tree : Tree) (field : String) : Option String :=
  (tree.field? field).map fun node =>
    let spelled := Text.trimStart (node.textIn text)
    let bare :=
      match spelled with
      | ':' :: rest => rest
      | _ => spelled
    String.ofList (Text.trim bare)

/-- The type of a function value: its parameters and what it returns. -/
def signature (value : Tree) : String :=
  let parameters :=
    match value.field? "parameters" with
    | some parameters => parameters.stringIn text
    | none =>
        match value.field? "parameter" with
        | some parameter => "(" ++ parameter.stringIn text ++ ")"
        | none => "()"
  parameters ++ " => " ++ (spelledType? text value "return_type").getD "any"

/-- The type of a value. A constant has the literal itself as its type. -/
def valueType? (constant : Bool) (value : Tree) : Option String :=
  if constant && ["number", "string", "true", "false"].contains value.kind then
    some (value.stringIn text)
  else if ["arrow_function", "function_expression", "function"].contains value.kind then
    some (signature text value)
  else
    (Check.literalType? value).map Check.Primitive.name

/-- The word a variable is declared with. -/
def keyword (declarator : Site) : String :=
  let word := declarator.parent?.bind fun statement => statement.tree.children.head?.map Tree.kind
  match word.filter ["let", "const", "var"].contains with
  | some word => word
  | none => "let"

def variableType (declarator : Site) : String :=
  ((spelledType? text declarator.tree "type").or
    ((declarator.tree.field? "value").bind
      (valueType? text (keyword declarator == "const")))).getD "any"

/-- A declaration in short. -/
def Declaration.display (declaration : Declaration) : String :=
  let name := declaration.name.tree.stringIn text
  let node := declaration.node.tree
  match declaration.kind with
  | .binding => keyword declaration.node ++ " " ++ name ++ ": " ++ variableType text declaration.node
  | .function =>
      let parameters := ((node.field? "parameters").map (·.stringIn text)).getD "()"
      let returned :=
        match spelledType? text node "return_type" with
        | some type => ": " ++ type
        | none => ""
      "function " ++ name ++ parameters ++ returned
  | .classType => "class " ++ name
  | .interface => "interface " ++ name
  | .enumeration => "enum " ++ name
  | .typeAlias =>
      "type " ++ name ++ " = " ++ ((node.field? "value").map (·.stringIn text)).getD "unknown"
  | .parameter => "(parameter) " ++ name ++ ": " ++ (spelledType? text node "type").getD "any"
  | .imported => "import " ++ name

/-- The statement that a comment on a declaration stands before. -/
def Declaration.statement? (declaration : Declaration) : Option Site :=
  let statement :=
    match declaration.kind with
    | .binding => declaration.node.parent?
    | .parameter | .imported => none
    | _ => some declaration.node
  statement.map fun statement =>
    match statement.parent? with
    | some parent => if parent.tree.kind = "export_statement" then parent else statement
    | none => statement

/-- A line of a comment without the star it starts with. -/
def commentLine (line : List Char) : List Char :=
  match Text.trim line with
  | '*' :: rest => Text.trim rest
  | bare => bare

/-- What a documentation comment says. -/
def commentBody? (comment : List Char) : Option String :=
  match comment with
  | '/' :: '*' :: '*' :: rest =>
      if ['*', '/'].isSuffixOf rest then
        let body := Text.trim
          (Text.joinLines ((Text.lines (rest.take (rest.length - 2))).map commentLine))
        if body.isEmpty then none else some (String.ofList body)
      else
        none
  | _ => none

/-- What the comment directly before a declaration says. -/
def Declaration.documentation? (declaration : Declaration) : Option String := do
  let statement ← declaration.statement?
  let comment ← statement.previousNamed?
  if comment.kind = "comment" then commentBody? (comment.textIn text) else none

end InlineScript.QuickInfo
