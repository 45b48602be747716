import InlineScript.Check.Finding
import InlineScript.Text.Blank
import InlineScript.Tree.Source

/-!
Errors of parsing: what is missing and what could not be placed, each where it is highest in the
tree.
-/

namespace InlineScript.Check

open Text (Span)

def expectedCode : Nat := 1005

def unexpectedCode : Nat := 1012

/-- The finding for a missing node. -/
def expected (tree : Tree) : Finding :=
  Finding.error ⟨tree.start, 0⟩ expectedCode ("'" ++ tree.kind ++ "' expected.")

/-- Whether a text is short enough to be named in a message. -/
def isQuotable (token : List Char) : Bool :=
  !token.isEmpty && Text.byteLength token ≤ 20 && !token.contains '\n'

/-- The finding for a node that could not be placed. -/
def unexpected (text : Text.Cuts) (tree : Tree) : Finding :=
  let token := Text.trim (tree.textIn text)
  Finding.error tree.span unexpectedCode
    (if isQuotable token then "Unexpected token '" ++ String.ofList token ++ "'."
    else "Unexpected token.")

mutual

/-- The errors at and below a node. Nothing is said below an error. -/
def errorsIn (text : Text.Cuts) : Tree → List Finding
  | .node info children =>
      if info.missing then [expected (.node info children)]
      else if info.error then [unexpected text (.node info children)]
      else errorsOf text children

def errorsOf (text : Text.Cuts) : List Tree → List Finding
  | [] => []
  | tree :: rest =>
      (if tree.info.hasError || tree.info.missing then errorsIn text tree else [])
        ++ errorsOf text rest

end

/-- The errors of a file by their start. -/
def syntactic (file : SourceFile) : List Finding :=
  match file.tree with
  | none => []
  | some root => Finding.sort (if root.info.hasError then errorsIn file.cuts root else [])

end InlineScript.Check
