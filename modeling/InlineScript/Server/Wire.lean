import InlineScript.Json.Place
import InlineScript.Server.Basic
import InlineScript.Uri.Reader

/-!
Messages, replies and notices as they are sent.
-/

namespace InlineScript

open Json (Value)
open Text (Position)

namespace Wire

/-! ## Reading

Parameters are read once they are known to have the shape of their message. -/

def position? (value : Value) : Option Position := do
  let line ← (← value.member? "line").natural?
  let character ← (← value.member? "character").natural?
  return ⟨line, character⟩

def uri? (value : Value) : Option Uri :=
  value.string?.bind Uri.read?

/-- A member that may be left out or null. -/
def optional? {α : Type} (read : Value → Option α) (value : Value) (name : String) :
    Option (Option α) :=
  match value.member? name with
  | none | some .null => some none
  | some member => (read member).map some

def folder? (value : Value) : Option Uri := do
  uri? (← value.member? "uri")

def folders? (value : Value) : Option (List Uri) :=
  value.array?.bind fun items => items.mapM folder?

def start? (params : Value) : Option Message := do
  let folders ← optional? folders? params "workspaceFolders"
  let root ← optional? uri? params "rootUri"
  return .start (folders.getD []) root

/-- The URI of the document that a message is about. -/
def documentUri? (params : Value) : Option Uri := do
  uri? (← (← params.member? "textDocument").member? "uri")

def documentVersion? (params : Value) : Option Int := do
  (← (← params.member? "textDocument").member? "version").integer?

def opened? (params : Value) : Option Message := do
  let text ← (← (← params.member? "textDocument").member? "text").string?
  return .opened (← documentUri? params) text (← documentVersion? params)

def change? (value : Value) : Option String := do
  (← value.member? "text").string?

def changed? (params : Value) : Option Message := do
  let changes ← (← params.member? "contentChanges").array?
  return .changed (← documentUri? params) (← changes.mapM change?) (← documentVersion? params)

def closed? (params : Value) : Option Message :=
  (documentUri? params).map .closed

def hover? (params : Value) : Option Message := do
  let position ← position? (← params.member? "position")
  return .hover (← documentUri? params) position

def format? (params : Value) : Option Message :=
  (documentUri? params).map .format

/-! ## Writing -/

def diagnostic (found : Diagnostic) : Value :=
  .object
    ([("range", .ofRange found.range), ("severity", .ofNat found.severity.code)]
      ++ (found.code.map fun code => ("code", .string code)).toList
      ++ [("source", .string found.source), ("message", .string found.message)])

def hover (found : Hover) : Value :=
  let code : Value :=
    .object [("language", .string found.language), ("value", .string found.value)]
  let contents : Value :=
    match found.documentation with
    | some text => .array [code, .string text]
    | none => code
  .object [("contents", contents), ("range", .ofRange found.range)]

def edit (edit : TextEdit) : Value :=
  .object [("range", .ofRange edit.range), ("newText", .string edit.newText)]

/-- What the server can do: documents are sent as a whole with each change. -/
def capabilities : Value :=
  .object
    [("textDocumentSync", .object [("openClose", .bool true), ("change", .ofNat 1)]),
     ("hoverProvider", .bool true),
     ("documentFormattingProvider", .bool true)]

def greeting : Value :=
  .object
    [("capabilities", capabilities),
     ("serverInfo",
       .object [("name", .string "embedscript-lsp"), ("version", .string "0.1.0")])]

/-- The result that a reply carries, if it is one. -/
def reply? : Reply → Option Value
  | .nothing => none
  | .capabilities => some greeting
  | .hover found => some (found.elim .null hover)
  | .edits edits => some (edits.elim .null fun edits => .array (edits.map edit))
  | .done => some .null

/-- The method and the parameters of a notice. -/
def notice : Notice → String × Value
  | .log text => ("window/logMessage", .object [("type", .ofNat 3), ("message", .string text)])
  | .publish uri found version =>
      ("textDocument/publishDiagnostics",
       .object
        ([("uri", .string uri), ("diagnostics", .array (found.map diagnostic))]
          ++ (version.map fun version => ("version", .ofNat version)).toList))

end Wire

end InlineScript
