import Std.Data.TreeMap
import InlineScript.Script.Kind
import InlineScript.Text.Blank

/-!
Dialects of a script: what its opening tag or its file name says it is written in.
-/

namespace InlineScript

/-- Attributes of an opening tag by lower-case name. -/
abbrev Attributes := Std.TreeMap String String

inductive Dialect where
  | script
  | typedScript
  | markup
  | unknown
deriving DecidableEq, Repr

namespace Dialect

/-- Whether a value reads as one of the given words when blanks around it and the case of its
letters are left aside. -/
def reads (words : List String) (value : Option String) : Bool :=
  match value with
  | none => false
  | some text => words.contains (Text.trimString text).toLower

/-- A script is typed when its tag says so by `type` or `lang`. -/
def ofAttributes (attributes : Attributes) : Dialect :=
  if reads ["text/typescript"] attributes["type"]? || reads ["ts", "typescript"] attributes["lang"]? then
    typedScript
  else
    script

/-- The dialect of a file by its extension, in either case of letters. -/
def ofPath (path : Path) : Dialect :=
  match path.extension?.map String.toLower with
  | some "ts" | some "tsx" | some "mts" | some "cts" => typedScript
  | some "js" | some "jsx" | some "mjs" | some "cjs" => script
  | some "svelte" | some "html" => markup
  | _ => unknown

def scriptKind : Dialect → ScriptKind
  | script => .js
  | typedScript => .ts
  | markup => .external
  | unknown => .unknown

/-- The `type` attribute that a file of its own stands for. -/
def impliedType? : Dialect → Option String
  | script => some "text/javascript"
  | typedScript => some "text/typescript"
  | markup | unknown => none

/-- The name of a dialect in messages. -/
def display : Dialect → String
  | script => "script"
  | typedScript => "typed-script"
  | markup => "markup"
  | unknown => "unknown"

/-- The label of what is said about a script. -/
def label : Dialect → String
  | typedScript => "ts"
  | script | markup | unknown => "js"

end Dialect

end InlineScript
