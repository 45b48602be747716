import InlineScript.Path.Basic

/-!
How files are read as scripts, by what their names end in.
-/

namespace InlineScript

/-- What a file counts as by its name. -/
inductive Extension where
  | ts
  | tsx
  | dts
  | js
  | jsx
  | json
  | markup
deriving DecidableEq, Repr

namespace Extension

/-- Endings of declaration files. -/
def declarationEndings : List String := [".d.ts", ".d.mts", ".d.cts"]

/-- Letters count as written: `.TS` is no known ending. -/
def ofPath? (path : Path) : Option Extension :=
  match path.fileName? with
  | none => none
  | some name =>
      if declarationEndings.any (fun ending => ending.toList.isSuffixOf name.toList) then
        some dts
      else
        match path.extension? with
        | some "ts" | some "mts" | some "cts" => some ts
        | some "tsx" => some tsx
        | some "js" | some "mjs" | some "cjs" => some js
        | some "jsx" => some jsx
        | some "json" => some json
        | some "svelte" | some "html" => some markup
        | _ => none

end Extension

/-- How a script is parsed. -/
inductive ScriptKind where
  /-- By the file's name. -/
  | unknown
  | js
  | ts
  /-- Not at all. -/
  | external
deriving DecidableEq, Repr

namespace ScriptKind

def ofPath (path : Path) : ScriptKind :=
  match Extension.ofPath? path with
  | some .ts | some .tsx | some .dts => ts
  | some .js | some .jsx | some .json => js
  | some .markup => external
  | none => js

end ScriptKind

end InlineScript
