import InlineScript.Tree.Source

/-!
Trees that are written down node by node, and parsers that know the trees of some texts.
-/

namespace InlineScript

namespace Tree

/-- A node with the given flags. There is a fault in it if it is one or has one below it. -/
def written (named missing error : Bool) (kind field : String) (start stop : Nat)
    (children : List Tree) : Tree :=
  .node
    { kind, named, missing, error
      hasError := missing || error || children.any (·.info.hasError)
      start, stop, field }
    children

/-- A named node that the parser could place. -/
def branch (kind field : String) (start stop : Nat) (children : List Tree) : Tree :=
  written true false false kind field start stop children

/-- A keyword or a mark, which is its own kind. -/
def token (kind field : String) (start stop : Nat) : Tree :=
  written false false false kind field start stop []

/-- A string in quotes from an offset on, given the bytes between them. -/
def quoted (field : String) (start length : Nat) : Tree :=
  branch "string" field start (start + length + 2)
    [token "'" "" start (start + 1), branch "string_fragment" "" (start + 1) (start + 1 + length) [],
      token "'" "" (start + 1 + length) (start + length + 2)]

/-- `import 'name';` from an offset on, given the bytes of the name. -/
def importing (start length : Nat) : Tree :=
  branch "import_statement" "" start (start + length + 10)
    [token "import" "" start (start + 6), quoted "source" (start + 7) length,
      token ";" "" (start + length + 9) (start + length + 10)]

/-- The tree of a text in which the parser could place nothing. -/
def unplaced (text : String) : Tree :=
  let stop := Text.byteLength text.toList
  branch "program" "" 0 stop [written true false true "ERROR" "" 0 stop []]

end Tree

/-- A parser that knows the trees of some texts and can place nothing in the others. -/
def Parser.knowing (untyped typed : List (String × Tree)) : Parser where
  untyped text := (untyped.lookup text).getD (.unplaced text)
  typed text := (typed.lookup text).getD (.unplaced text)

end InlineScript
