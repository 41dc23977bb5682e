import Wayfinder.Server.Start
import Wayfinder.Site.Route

namespace Wayfinder.Server

def readEnvironment : IO (Table String) := do
  let names := Settings.checkedVariables ++ Settings.freeVariables
  let values ← names.mapM fun name ↦ do return (← IO.getEnv name).map (name, ·)
  return ⟨values.filterMap id⟩

/-- Answers the requests that can be read, one address a line, until there are no more. -/
partial def answerRequests (input : IO.FS.Stream) : IO Unit := do
  let line ← input.getLine
  unless line.isEmpty do
    if let some route := Site.Route.ofUrl? line then IO.println route.shell
    answerRequests input

end Wayfinder.Server

open Wayfinder in
def main : IO UInt32 := do
  match Server.start (← Server.readEnvironment) with
  | .error f =>
    IO.println f.logLine
    return Server.exitCode.toUInt32
  | .ok s =>
    IO.println s.logLine
    Server.answerRequests (← IO.getStdin)
    return 0
