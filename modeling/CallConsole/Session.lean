/-
**Interactive sessions.**

A session answers one line after another on one console: it writes the value of an expression,
unless that is nothing, lists the functions on request, and ends when it is told to or when a line
cannot be made out. Diagnostics are kept apart from results.
-/

import CallConsole.Console
import CallConsole.Render
import CallConsole.Text.Backspace

namespace CallConsole

/-- What a session writes for a line. -/
structure Reply where
  output : List Char
  errors : List Char
  /-- The exit code, if the session ends with the line. -/
  exitCode : Option Nat

namespace Session

/-- The names of all functions, with commas between them. -/
def functionNames : List Char :=
  commaSeparated (Builtin.table.map (·.name.toList)) ++ ['\n']

/-- The line of a value; nothing has none. -/
def resultLine (s : Store) (v : Value) : List Char :=
  if v.isNull then [] else s.repr v ++ ['\n']

/-- The line of a failure. -/
def failureLine : Failure → List Char
  | .diagnostic d => (Report.ofDiagnostic d).headline.toList ++ ['\n']
  | .sink reason => ("error: " ++ Failure.sinkMessage reason).toList ++ ['\n']

/-- Evaluates an expression; what it prints comes before its result. -/
def evaluateLine (source : List Char) (w : World) : Reply × World :=
  match Console.evalSource source { w with sink := Sink.empty } with
  | .ok v w => (⟨w.sink.stored ++ resultLine w.store v, [], none⟩, w)
  | .error failure w => (⟨w.sink.stored, failureLine failure, none⟩, w)

/-- Answers a request, which has no backspaces and no blanks around it. -/
def answerRequest (request : List Char) (w : World) : Reply × World :=
  if request = ":quit".toList ∨ request = ":exit".toList then (⟨[], [], some 0⟩, w)
  else if request = ":builtins".toList then (⟨functionNames, [], none⟩, w)
  else if isBlankSource request then (⟨[], [], none⟩, w)
  else evaluateLine request w

/-- The end of a session with a line that cannot be made out. -/
def abort : Reply := ⟨[], "a backspace falls inside a character\n".toList, some 101⟩

/-- **Answers one line.** -/
def answer (line : List Char) (w : World) : Reply × World :=
  match applyBackspaces line with
  | some meant => answerRequest (trimBlanks meant) w
  | none => (abort, w)

/-- What a session writes for lines, up to the one that ends it, and its exit code. -/
def answerAll (w : World) : List (List Char) → Nat × List Char × List Char
  | [] => (0, [], [])
  | line :: rest =>
    match answer line w with
    | (reply, w) =>
      match reply.exitCode with
      | some code => (code, reply.output, reply.errors)
      | none =>
        let (code, output, errors) := answerAll w rest
        (code, reply.output ++ output, reply.errors ++ errors)

end Session

end CallConsole
