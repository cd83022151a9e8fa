/-
**The sink of printed lines.**

A line is written whole and then flushed. A sink may refuse either: a refused write stores nothing,
a refused flush comes after the line is stored.
-/

namespace CallConsole

/-- What a sink does with the lines that it is given. -/
inductive SinkMode where
  | accepting
  | refusingWrites (reason : String)
  | refusingFlushes (reason : String)
deriving DecidableEq

/-- A sink and all that is stored in it. -/
structure Sink where
  mode : SinkMode
  stored : List Char

namespace Sink

/-- An accepting sink with nothing in it. -/
def empty : Sink := ⟨.accepting, []⟩

/-- Writes a whole line and flushes. The reason of a refusal comes back, with the sink after it. -/
def print (sink : Sink) (line : List Char) : Except String Unit × Sink :=
  match sink.mode with
  | .accepting => (.ok (), { sink with stored := sink.stored ++ line })
  | .refusingWrites reason => (.error reason, sink)
  | .refusingFlushes reason => (.error reason, { sink with stored := sink.stored ++ line })

end Sink

end CallConsole
