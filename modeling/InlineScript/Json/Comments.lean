import InlineScript.Text.Blank

/-!
JSON with comments and trailing commas, as configuration files are written, made plain JSON:
a line comment is dropped, a block comment becomes one blank, and a comma before a closing bracket
is dropped. Texts between quotes stay as they are.
-/

namespace InlineScript.Json

/-- Whether a reader stands inside a string. -/
inductive Quoting where
  | outside
  | inside
  | escaped
deriving DecidableEq, Repr

/-- Where a reader stands that tells comments from the rest. -/
inductive CommentScan where
  | code (quoting : Quoting)
  | line
  /-- `star` tells whether the last character was one. -/
  | block (star : Bool)
deriving DecidableEq, Repr

/-- The text without comments. -/
def dropComments : CommentScan → List Char → List Char
  | _, [] => []
  | .code .outside, '"' :: rest => '"' :: dropComments (.code .inside) rest
  | .code .outside, '/' :: '/' :: rest => dropComments .line rest
  | .code .outside, '/' :: '*' :: rest => ' ' :: dropComments (.block false) rest
  | .code .outside, c :: rest => c :: dropComments (.code .outside) rest
  | .code .inside, '\\' :: rest => '\\' :: dropComments (.code .escaped) rest
  | .code .inside, '"' :: rest => '"' :: dropComments (.code .outside) rest
  | .code .inside, c :: rest => c :: dropComments (.code .inside) rest
  | .code .escaped, c :: rest => c :: dropComments (.code .inside) rest
  | .line, '\n' :: rest => '\n' :: dropComments (.code .outside) rest
  | .line, _ :: rest => dropComments .line rest
  | .block star, c :: rest =>
      if star && c == '/' then dropComments (.code .outside) rest
      else dropComments (.block (c == '*')) rest

/-- Whether the first character that is not blank closes a bracket. -/
def closesNext (text : List Char) : Bool :=
  match text.dropWhile Text.isBlank with
  | c :: _ => c == '\x7d' || c == ']'
  | [] => false

/-- The text without commas before closing brackets. -/
def dropTrailingCommas : Quoting → List Char → List Char
  | _, [] => []
  | .outside, '"' :: rest => '"' :: dropTrailingCommas .inside rest
  | .outside, ',' :: rest =>
      if closesNext rest then dropTrailingCommas .outside rest
      else ',' :: dropTrailingCommas .outside rest
  | .outside, c :: rest => c :: dropTrailingCommas .outside rest
  | .inside, '\\' :: rest => '\\' :: dropTrailingCommas .escaped rest
  | .inside, '"' :: rest => '"' :: dropTrailingCommas .outside rest
  | .inside, c :: rest => c :: dropTrailingCommas .inside rest
  | .escaped, c :: rest => c :: dropTrailingCommas .inside rest

/-- Plain JSON from JSON with comments and trailing commas. -/
def plain (text : List Char) : List Char :=
  dropTrailingCommas .outside (dropComments (.code .outside) text)

def plainText (text : String) : String :=
  String.ofList (plain text.toList)

end InlineScript.Json
