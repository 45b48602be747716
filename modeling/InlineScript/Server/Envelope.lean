import InlineScript.Server.Connection

/-!
Messages with the numbers that answers refer to.
-/

namespace InlineScript.Envelope

open Json (Value)

/-- A message with its number, if it wants an answer. -/
structure Numbered where
  id : Option Value
  incoming : Incoming

def read? (value : Value) : Option Numbered := do
  let method ← (← value.member? "method").string?
  let id := value.member? "id"
  return { id, incoming := { method, params := value.member? "params", isCall := id.isSome } }

/-- A message, marked as one. -/
def message (members : List (String × Value)) : Value :=
  .object (("jsonrpc", .string "2.0") :: members)

def ofNotice (notice : Notice) : Value :=
  let (method, params) := Wire.notice notice
  message [("method", .string method), ("params", params)]

/-- The answer to the message with a number, if there is one. -/
def ofAnswer? (id : Value) : Answer → Option Value
  | .silent | .exited => none
  | .result value => some (message [("id", id), ("result", value)])
  | .fault fault =>
      some (message
        [("id", id),
         ("error",
           .object [("code", .ofInt fault.code), ("message", .string fault.message)])])

/-- Takes a message: all that is sent, and the connection after it. -/
def exchange (parser : Parser) (disk : Disk) (connection : Connection) (numbered : Numbered) :
    List Value × Connection :=
  let (answer, notices, next) := connection.receive parser disk numbered.incoming
  (notices.map ofNotice ++ (numbered.id.bind fun id => ofAnswer? id answer).toList, next)

end InlineScript.Envelope
