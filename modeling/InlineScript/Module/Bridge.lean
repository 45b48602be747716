import InlineScript.Module.Resolve

/-!
Imports of markup components. Where the name of an import ends as markup does and nothing else is
found, it means the file next to the importing one, whether that is there or not.
-/

namespace InlineScript.Module

/-- Whether a name ends as markup does, in either case of letters. -/
def isMarkupName (name : String) : Bool :=
  match (Path.ofText name).extension?.map String.toLower with
  | some extension => extension == "svelte" || extension == "html"
  | none => false

/-- The component that a name means next to the importing file. -/
def component? (importer : Path) (name : String) : Option Resolved :=
  if isMarkupName name then
    some
      { fileName := (importer.directory.child name).normalize
        extension := .markup
        isExternal := false }
  else
    none

/-- The file that a name means, components included. -/
def resolveWithMarkup? (options : CompilerOptions) (host : Host) (importer : Path) (name : String) :
    Option Resolved :=
  (resolve? options host importer name).or (component? importer name)

end InlineScript.Module
