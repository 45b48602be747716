import InlineScript.Project.Layer

/-!
What a chain of configurations declares. Of each entry the nearest one counts.
-/

namespace InlineScript.Project

/-- Entries with the directory they are relative to. -/
structure Entries where
  dir : Path
  texts : List String
deriving DecidableEq, Repr

structure Declared where
  target : Option String := none
  module : Option String := none
  moduleResolution : Option String := none
  allowJs : Option Bool := none
  baseUrl : Option Path := none
  files : Option Entries := none
  included : Option Entries := none
  excluded : Option Entries := none
deriving DecidableEq, Repr

namespace Declared

/-- What one configuration declares by itself. -/
def ofLayer (layer : Layer) : Declared :=
  let options := layer.written.options.getD {}
  let entries (texts : Option (List String)) : Option Entries :=
    texts.map fun texts => { dir := layer.dir, texts }
  { target := options.target
    module := options.module
    moduleResolution := options.moduleResolution
    allowJs := options.allowJs
    baseUrl := options.baseUrl.map fun name => (layer.dir.child name).normalize
    files := entries layer.written.files
    included := entries layer.written.included
    excluded := entries layer.written.excluded }

/-- A declaration laid over another: what it leaves open the other decides. -/
def overlay (nearer base : Declared) : Declared where
  target := nearer.target.or base.target
  module := nearer.module.or base.module
  moduleResolution := nearer.moduleResolution.or base.moduleResolution
  allowJs := nearer.allowJs.or base.allowJs
  baseUrl := nearer.baseUrl.or base.baseUrl
  files := nearer.files.or base.files
  included := nearer.included.or base.included
  excluded := nearer.excluded.or base.excluded

/-- What a chain declares, given nearest first. -/
def ofChain (chain : List Layer) : Declared :=
  chain.foldr (fun layer base => (ofLayer layer).overlay base) {}

/-- The options that are declared. A target or resolution that is not known counts as not declared. -/
def options (declared : Declared) : CompilerOptions :=
  let defaults : CompilerOptions := {}
  { target := (declared.target.bind Target.ofName?).getD defaults.target
    moduleResolution :=
      ((declared.moduleResolution.bind ModuleResolution.ofName?).or
        (declared.module.map ModuleResolution.ofModule)).getD defaults.moduleResolution
    allowJs := declared.allowJs.getD defaults.allowJs
    allowNonTsExtensions := defaults.allowNonTsExtensions
    baseUrl := declared.baseUrl }

end Declared

end InlineScript.Project
