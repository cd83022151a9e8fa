/-
**The program.**

Reads the command line, scripts and session lines, and writes what the commands answer.
-/

import CallConsole.CommandLine

namespace CallConsole

namespace CommandLine

/-- Writes what was answered. -/
def write (output errors : List Char) : IO Unit := do
  let stdout ← IO.getStdout
  stdout.putStr (String.ofList output)
  stdout.flush
  let stderr ← IO.getStderr
  stderr.putStr (String.ofList errors)

/-- Holds a session on standard input until it ends, and yields its exit code. -/
partial def holdSession (w : World) : IO UInt32 := do
  let stdin ← IO.getStdin
  let line ← stdin.getLine
  if line.isEmpty then return 0
  let (reply, w) := Session.answer line.toList w
  write reply.output reply.errors
  match reply.exitCode with
  | some code => return code.toUInt32
  | none => holdSession w

/-- The text of a script, if it can be read. -/
def readScript (path : String) : IO (Option (List Char)) := do
  try
    let text ← IO.FS.readFile path
    return some text.toList
  catch _ => return none

/-- Carries out a command. -/
def perform (command : Option Command) : IO UInt32 := do
  match command with
  | some .session => holdSession World.empty
  | some (.run script) =>
    let text ← readScript script
    let response := respondToRun text
    write response.output response.errors
    return response.code.toUInt32
  | other =>
    let response := respond (fun _ => none) [] other
    write response.output response.errors
    return response.code.toUInt32

end CommandLine

end CallConsole

/-- Runs the command line. -/
def main (arguments : List String) : IO UInt32 :=
  CallConsole.CommandLine.perform (CallConsole.CommandLine.command? arguments)
