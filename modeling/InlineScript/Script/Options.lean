import InlineScript.Path.Basic

/-!
Options a program is analysed with.
-/

namespace InlineScript

/-- The language level. -/
inductive Target where
  | es5
  | es2015
  | es2016
  | es2017
  | es2018
  | es2019
  | es2020
  | es2021
  | es2022
  | esNext
deriving DecidableEq, Repr

namespace Target

def ofName? (name : String) : Option Target :=
  match name.toLower with
  | "es5" => some es5
  | "es6" | "es2015" => some es2015
  | "es2016" => some es2016
  | "es2017" => some es2017
  | "es2018" => some es2018
  | "es2019" => some es2019
  | "es2020" => some es2020
  | "es2021" => some es2021
  | "es2022" => some es2022
  | "esnext" | "latest" => some esNext
  | _ => none

end Target

/-- Where bare import names are looked up. -/
inductive ModuleResolution where
  /-- In the directories above. -/
  | classic
  /-- In `node_modules` of the directories above. -/
  | node
  /-- As `node`. -/
  | bundler
deriving DecidableEq, Repr

namespace ModuleResolution

def ofName? (name : String) : Option ModuleResolution :=
  match name.toLower with
  | "classic" => some classic
  | "node" | "node10" | "node16" | "nodenext" => some node
  | "bundler" => some bundler
  | _ => none

/-- What the choice of a module format says where nothing else is said. -/
def ofModule (format : String) : ModuleResolution :=
  match format.toLower with
  | "commonjs" | "node16" | "nodenext" => node
  | "preserve" => bundler
  | _ => classic

end ModuleResolution

structure CompilerOptions where
  target : Target := .esNext
  moduleResolution : ModuleResolution := .node
  /-- Whether untyped files take part. -/
  allowJs : Bool := true
  /-- Whether files with unknown endings are parsed. -/
  allowNonTsExtensions : Bool := true
  /-- Where bare import names are looked up first. -/
  baseUrl : Option Path := none
deriving DecidableEq, Repr, Inhabited

end InlineScript
