import InlineScript.Document.Basic

/-!
Open documents by name.
-/

namespace InlineScript

abbrev Store := Std.TreeMap String Document

namespace Store

/-- Opens a document, or replaces the one under the same name. -/
def put (store : Store) (name : String) (path : Path) (text : List Char) (version : Nat) : Store :=
  store.insert name (Document.ofHost path text version)

/-- Gives an open document another text; a name that is not open changes nothing. -/
def change (store : Store) (name : String) (text : List Char) (version : Nat) : Store :=
  match store[name]? with
  | none => store
  | some doc => store.insert name (Document.ofHost doc.path text version)

end Store

end InlineScript
