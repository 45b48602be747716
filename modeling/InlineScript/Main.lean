import InlineScript.Command.Run
import InlineScript.Server.Envelope
import InlineScript.Workspace.Basic

/-!
The program. The first line of its input is the workspace; an editor that is served sends one
message on each line after it.
-/

namespace InlineScript

open Json (Value)

/-- Answers the messages of an editor until there are no more, or the editor leaves. -/
partial def serveLines (workspace : Workspace) (input output : IO.FS.Stream)
    (connection : Connection) : IO Unit := do
  let line ← input.getLine
  unless line.isEmpty || connection.phase == .exited do
    match (Value.read? line).bind Envelope.read? with
    | none => serveLines workspace input output connection
    | some numbered =>
        let (sent, next) :=
          Envelope.exchange workspace.parser workspace.disk connection numbered
        for value in sent do
          output.putStrLn value.render
        output.flush
        serveLines workspace input output next

/-- Prints and writes what a command brings about. -/
def carryOut (outcome : Outcome) (output errors : IO.FS.Stream) : IO UInt32 := do
  output.putStr outcome.out
  errors.putStr outcome.err
  for (path, text) in outcome.writes do
    IO.FS.writeFile path.text text
  return outcome.code.toUInt32

end InlineScript

open InlineScript in
def main (arguments : List String) : IO UInt32 := do
  let input ← IO.getStdin
  let output ← IO.getStdout
  let first ← input.getLine
  let workspace := Workspace.ofJson ((Json.Value.read? first).getD .null)
  if let some (.run _ .serve) := Command.ofArguments? arguments then
    serveLines workspace input output (Connection.ofDirectory workspace.cwd)
  carryOut (Command.executeArguments workspace.parser workspace.disk arguments) output
    (← IO.getStderr)
