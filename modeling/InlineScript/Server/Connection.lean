import InlineScript.Protocol.Messages
import InlineScript.Server.Wire

/-!
A connection to an editor: which messages are taken when, and what those are told that come too
early, too late, or that nobody knows.
-/

namespace InlineScript

open Json (Value)

inductive Phase where
  /-- Before the first message. -/
  | fresh
  | running
  /-- The server was asked to shut down. -/
  | stopped
  | exited
deriving DecidableEq, Repr

/-- A message as it is received. Calls want an answer, all others do not. -/
structure Incoming where
  method : String
  params : Option Value
  isCall : Bool

/-- Why a call got no result. -/
inductive CallFault where
  | notStarted
  | invalid
  | unknownMethod
  | badParams (reason : String)
deriving DecidableEq, Repr

namespace CallFault

def code : CallFault → Int
  | notStarted => -32002
  | invalid => -32600
  | unknownMethod => -32601
  | badParams _ => -32602

def message : CallFault → String
  | notStarted => "Server not initialized"
  | invalid => "Invalid request"
  | unknownMethod => "Method not found"
  | badParams reason => reason

end CallFault

inductive Answer where
  | silent
  | result (value : Value)
  | fault (fault : CallFault)
  /-- The connection has ended. -/
  | exited

namespace Answer

def exitedText : String := "language server has exited"

end Answer

structure Connection where
  phase : Phase
  server : Server

/-- How a method is called, what its parameters look like, and what the server makes of them: nothing
if the method is known but not heeded. -/
structure Method where
  name : String
  isCall : Bool
  shape : Shape
  meaning : Option (Value → Option Message)

namespace Method

/-- The methods that the server heeds while it runs. -/
def heeded : List Method :=
  [⟨"initialized", false, Protocol.ready, some fun _ => some .ready⟩,
   ⟨"textDocument/didOpen", false, Protocol.opened, some Wire.opened?⟩,
   ⟨"textDocument/didChange", false, Protocol.changed, some Wire.changed?⟩,
   ⟨"textDocument/didClose", false, Protocol.closed, some Wire.closed?⟩,
   ⟨"textDocument/hover", true, Protocol.hover, some Wire.hover?⟩,
   ⟨"textDocument/formatting", true, Protocol.format, some Wire.format?⟩]

/-- The methods that may come while the server runs. -/
def all : List Method :=
  heeded
    ++ Protocol.otherCalls.map (fun (name, shape) => ⟨name, true, shape, none⟩)
    ++ Protocol.otherNotes.map fun name => ⟨name, false, .anything, none⟩

end Method

namespace Connection

/-- A connection of a server that works in a directory. -/
def ofDirectory (dir : Path) : Connection where
  phase := .fresh
  server := Server.ofDirectory dir

/-- Only calls hear of a fault. -/
def refuse (incoming : Incoming) (fault : CallFault) : Answer :=
  if incoming.isCall then .fault fault else .silent

/-- What is told to messages that come before the first one or after the last. -/
def outOfPhase (phase : Phase) : CallFault :=
  match phase with
  | .fresh => .notStarted
  | _ => .invalid

def missingParams : CallFault := .badParams "Missing params field"

def unexpectedParams (params : Value) : CallFault :=
  .badParams ("Unexpected params: " ++ params.ordered.render)

/-- Parameters that have the shape of their message. -/
def readParams (shape : Shape) (params : Option Value) : Except CallFault Value :=
  match params with
  | none => .error missingParams
  | some params =>
      match shape.read false params.ordered with
      | .ok value => .ok value
      | .error mismatch => .error (.badParams mismatch.message)

variable (parser : Parser) (disk : Disk) (connection : Connection) (incoming : Incoming)

/-- Hands a message to the server. -/
def deliver (message : Message) (phase : Phase) : Answer × List Notice × Connection :=
  let (reply, notices, server) := connection.server.handle parser disk message
  let answer := (Wire.reply? reply).elim .silent .result
  (answer, notices, { phase, server })

/-- The first message is a call and comes once. -/
def receiveStart : Answer × List Notice × Connection :=
  if connection.phase = .fresh then
    if incoming.isCall then
      match readParams Protocol.start incoming.params with
      | .error fault => (.fault fault, [], connection)
      | .ok params =>
          match Wire.start? params with
          | some message => deliver parser disk connection message .running
          | none => (.fault .invalid, [], connection)
    else
      (.silent, [], connection)
  else
    (refuse incoming .invalid, [], connection)

/-- The last message stops the server even if it is no call, but only a call ends the session. -/
def receiveShutdown : Answer × List Notice × Connection :=
  if connection.phase = .running then
    let stopped := { connection with phase := .stopped }
    if incoming.isCall then
      match incoming.params with
      | none => deliver parser disk stopped .shutdown .stopped
      | some params => (.fault (unexpectedParams params), [], stopped)
    else
      (.silent, [], stopped)
  else
    (refuse incoming (outOfPhase connection.phase), [], connection)

/-- What the server makes of the parameters of a method. -/
def readMessage (method : Method) (params : Option Value) : Except CallFault Message := do
  let value ← readParams method.shape params
  match method.meaning with
  | none => throw .unknownMethod
  | some meaning =>
      match meaning value with
      | some message => return message
      | none => throw .invalid

/-- A message with a known method. Methods that want no answer cannot be called. -/
def receiveMethod (method : Method) : Answer × List Notice × Connection :=
  if connection.phase ≠ .running then
    (refuse incoming (outOfPhase connection.phase), [], connection)
  else if method.isCall ≠ incoming.isCall then
    (refuse incoming .invalid, [], connection)
  else
    match readMessage method incoming.params with
    | .ok message => deliver parser disk connection message .running
    | .error fault => (refuse incoming fault, [], connection)

/-- A message with an unknown method. Methods of the protocol itself may go unanswered. -/
def receiveOther : Answer :=
  if ['$', '/'].isPrefixOf incoming.method.toList then .silent
  else refuse incoming .unknownMethod

/-- Takes a message: the answer, what else the server says, and the connection after it. -/
def receive : Answer × List Notice × Connection :=
  if connection.phase = .exited then
    (.exited, [], connection)
  else
    match incoming.method with
    | "exit" => (.silent, [], { connection with phase := .exited })
    | "$/cancelRequest" => (refuse incoming .invalid, [], connection)
    | "initialize" => receiveStart parser disk connection incoming
    | "shutdown" => receiveShutdown parser disk connection incoming
    | name =>
        match Method.all.find? (·.name == name) with
        | some method => receiveMethod parser disk connection incoming method
        | none => (receiveOther incoming, [], connection)

end Connection

end InlineScript
