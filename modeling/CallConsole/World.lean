/-
**What evaluation acts on**: the store of objects and the sink of printed lines. A failure keeps
what was done and printed before it.
-/

import CallConsole.Sink
import CallConsole.Store

namespace CallConsole

/-- The store and the sink. -/
structure World where
  store : Store
  sink : Sink

/-- A computation that may change the world and may fail. -/
abbrev Run := EStateM Failure World

namespace World

/-- No objects, and an accepting sink with nothing in it. -/
def empty : World := ⟨Store.empty, Sink.empty⟩

end World

namespace Run

/-- Does something in the store. -/
def act {α : Type} (action : Action α) : Run α := fun w =>
  match action w.store with
  | .ok a s => .ok a { w with store := s }
  | .error cause s => .error (.ofCause cause) { w with store := s }

/-- Prints a whole line. -/
def print (line : List Char) : Run Unit := fun w =>
  match w.sink.print line with
  | (.ok (), sink) => .ok () { w with sink := sink }
  | (.error reason, sink) => .error (.sink reason) { w with sink := sink }

/-- The result of a computation and the world after it. -/
def outcome {α : Type} (run : Run α) (w : World) : Except Failure α × World :=
  match run w with
  | .ok a w => (.ok a, w)
  | .error failure w => (.error failure, w)

end Run

end CallConsole
