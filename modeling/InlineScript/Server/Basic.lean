import InlineScript.Document.Store
import InlineScript.Engine.Script
import InlineScript.Format.Edit
import InlineScript.Session.Manager
import InlineScript.Uri.Basic

/-!
The language server: open documents, one session for them, and what it says to an editor about each
message.
-/

namespace InlineScript

/-- What an editor tells or asks the server. -/
inductive Message where
  /-- The first message: the folders of the workspace and its root. -/
  | start (folders : List Uri) (root : Option Uri)
  /-- The editor has seen the answer to the first message. -/
  | ready
  | opened (uri : Uri) (text : String) (version : Int)
  /-- The texts of a document one after another, each as a whole. -/
  | changed (uri : Uri) (texts : List String) (version : Int)
  | closed (uri : Uri)
  | hover (uri : Uri) (position : Text.Position)
  | format (uri : Uri)
  | shutdown

/-- What the server answers. -/
inductive Reply where
  | nothing
  /-- What the server can do. -/
  | capabilities
  | hover (found : Option Hover)
  | edits (edits : Option (List TextEdit))
  /-- All is done. -/
  | done
deriving DecidableEq, Repr

/-- What the server says unasked. -/
inductive Notice where
  | log (text : String)
  | publish (uri : String) (diagnostics : List Diagnostic) (version : Option Nat)
deriving DecidableEq, Repr

structure Server where
  /-- Open documents by the normal forms of their URIs. -/
  documents : Store
  manager : Manager ScriptEngine

namespace Server

/-- A server that works in a directory until an editor names another one. -/
def ofDirectory (dir : Path) : Server where
  documents := ∅
  manager := Manager.ofWorkspace dir

/-- Negative versions count as none. -/
def versionOf (version : Int) : Nat :=
  version.toNat

/-- Versions that an editor can read. -/
def shownVersion? (version : Nat) : Option Nat :=
  if version ≤ 2147483647 then some version else none

/-- The directory that the first message names. -/
def workspaceOf? (folders : List Uri) (root : Option Uri) : Option Path :=
  (folders.head?.or root).bind Uri.filePath?

variable (parser : Parser) (disk : Disk) (server : Server)

/-- Says what is wrong with a document, if it is open. -/
def publish (uri : Uri) : List Notice × Server :=
  match server.documents[uri.render]? with
  | none => ([], server)
  | some doc =>
      let (found, manager) := server.manager.diagnostics (scriptEngine parser) disk doc
      ([.publish uri.render found (shownVersion? doc.version)], { server with manager })

def start (folders : List Uri) (root : Option Uri) : Server :=
  match workspaceOf? folders root with
  | some dir => { server with manager := Manager.ofWorkspace dir }
  | none => server

def opened (uri : Uri) (text : String) (version : Int) : List Notice × Server :=
  let documents := server.documents.put uri.render uri.path text.toList (versionOf version)
  publish parser disk { server with documents } uri

/-- Takes over the last of the texts. -/
def changed (uri : Uri) (texts : List String) (version : Int) : List Notice × Server :=
  match texts.getLast? with
  | none => ([], server)
  | some text =>
      let documents := server.documents.change uri.render text.toList (versionOf version)
      publish parser disk { server with documents } uri

/-- Nothing is wrong any more with a closed document. -/
def closed (uri : Uri) : List Notice × Server :=
  let manager :=
    match server.documents[uri.render]? with
    | some doc => server.manager.close doc
    | none => server.manager
  ([.publish uri.render [] none], { documents := server.documents.erase uri.render, manager })

def hover (uri : Uri) (position : Text.Position) : Option Hover × Server :=
  match server.documents[uri.render]? with
  | none => (none, server)
  | some doc =>
      let (found, manager) := server.manager.hover (scriptEngine parser) disk doc position
      (found, { server with manager })

def format (uri : Uri) : Option (List TextEdit) :=
  server.documents[uri.render]?.map (Format.edits disk)

def shutdown : Server :=
  { server with manager := server.manager.reset }

def readyText : String := "embedscript language server initialized"

/-- Handles a message. -/
def handle : Message → Reply × List Notice × Server
  | .start folders root => (.capabilities, [], server.start folders root)
  | .ready => (.nothing, [.log readyText], server)
  | .opened uri text version => (.nothing, opened parser disk server uri text version)
  | .changed uri texts version => (.nothing, changed parser disk server uri texts version)
  | .closed uri => (.nothing, closed server uri)
  | .hover uri position =>
      let (found, next) := hover parser disk server uri position
      (.hover found, [], next)
  | .format uri => (.edits (format disk server uri), [], server)
  | .shutdown => (.done, [], server.shutdown)

end Server

end InlineScript
