/-
**What runs print.**

A run prints lines and ends with a result, unless the sink refuses a line: then it ends there, with
the reason of the sink. Which lines these are and what the result is does not depend on the sink.
This is said of runs one by one and lasts when they are put together:

* `Sink.printAll`: what a sink does with lines, one after another;
* `Run.Prints`: the lines of a run, and what it ends with;
* `Run.Prints.bind`: what two runs print is printed by both of them one after the other;
* `Builtin.print_prints`, `Builtin.invoke_prints`: `print` prints one line, and no other function
  prints any.
-/

import CallConsole.Proofs.Runs

namespace CallConsole

/-! ### Lines on a sink -/

namespace Sink

/-- Prints lines until one is refused. -/
def printAll (sink : Sink) : List (List Char) → Except String Unit × Sink
  | [] => (.ok (), sink)
  | line :: rest =>
    match sink.print line with
    | (.ok (), printed) => printAll printed rest
    | (.error reason, printed) => (.error reason, printed)

theorem printAll_append_of_ok {sink printed : Sink} {lines : List (List Char)}
    (done : sink.printAll lines = (.ok (), printed)) (others : List (List Char)) :
    sink.printAll (lines ++ others) = printed.printAll others := by
  induction lines generalizing sink with
  | nil =>
    cases done
    rfl
  | cons line rest ih =>
    rw [List.cons_append, printAll]
    rw [printAll] at done
    split at done
    case h_1 => exact ih done
    case h_2 => cases done

theorem printAll_append_of_error {sink printed : Sink} {lines : List (List Char)} {reason : String}
    (refused : sink.printAll lines = (.error reason, printed)) (others : List (List Char)) :
    sink.printAll (lines ++ others) = (.error reason, printed) := by
  induction lines generalizing sink with
  | nil => cases refused
  | cons line rest ih =>
    rw [List.cons_append, printAll]
    rw [printAll] at refused
    split at refused
    case h_1 => exact ih refused
    case h_2 => exact refused

/-- A working sink takes all lines. -/
theorem printAll_accepting (stored : List Char) (lines : List (List Char)) :
    printAll ⟨.accepting, stored⟩ lines = (.ok (), ⟨.accepting, stored ++ lines.flatten⟩) := by
  induction lines generalizing stored with
  | nil => rw [printAll, List.flatten_nil, List.append_nil]
  | cons line rest ih =>
    rw [printAll, print, List.flatten_cons, ← List.append_assoc]
    exact ih (stored ++ line)

/-- A sink that refuses writes takes no line. -/
theorem printAll_refusingWrites (reason : String) (stored line : List Char)
    (rest : List (List Char)) : printAll ⟨.refusingWrites reason, stored⟩ (line :: rest) =
      (.error reason, ⟨.refusingWrites reason, stored⟩) := rfl

/-- A sink that refuses flushes takes one line. -/
theorem printAll_refusingFlushes (reason : String) (stored line : List Char)
    (rest : List (List Char)) : printAll ⟨.refusingFlushes reason, stored⟩ (line :: rest) =
      (.error reason, ⟨.refusingFlushes reason, stored ++ line⟩) := rfl

end Sink

/-! ### Runs that print -/

namespace Run

variable {α β : Type} {s made made' : Store} {lines lines' : List (List Char)}

/-- **The run prints the lines and then ends** with the result and the store. If the sink refuses a
line, it ends there. -/
def Prints (run : Run α) (s : Store) (lines : List (List Char)) (result : Except Failure α)
    (made : Store) : Prop :=
  ∀ sink : Sink, match sink.printAll lines with
    | (.ok (), printed) => run.outcome ⟨s, sink⟩ = (result, ⟨made, printed⟩)
    | (.error reason, printed) =>
      ∃ reached, run.outcome ⟨s, sink⟩ = (.error (.sink reason), ⟨reached, printed⟩)

theorem prints_act_of_ok {action : Action α} {a : α} (done : action s = .ok a made) :
    Prints (act action) s [] (.ok a) made :=
  fun sink => outcome_act_of_ok (w := ⟨s, sink⟩) done

theorem prints_act_of_error {action : Action α} {cause : Cause}
    (failed : action s = .error cause made) :
    Prints (act action) s [] (.error (.ofCause cause)) made :=
  fun sink => outcome_act_of_error (w := ⟨s, sink⟩) failed

/-- An action prints nothing. -/
theorem act_prints (action : Action α) (s : Store) :
    (∃ a made, Prints (act action) s [] (.ok a) made) ∨
      ∃ failure made, Prints (act action) s [] (.error failure) made := by
  cases done : action s with
  | ok a made => exact .inl ⟨a, made, prints_act_of_ok done⟩
  | error cause made => exact .inr ⟨_, made, prints_act_of_error done⟩

theorem prints_print (line : List Char) : Prints (print line) s [line] (.ok ()) s := by
  intro sink
  rw [Sink.printAll]
  cases printed : sink.print line with
  | mk taken after =>
    cases taken with
    | ok done =>
      show (print line).outcome _ = _
      rw [outcome, print, printed]
    | error reason =>
      refine ⟨s, ?_⟩
      rw [outcome, print, printed]

/-- A working sink holds what it held and all lines. -/
theorem Prints.outcome_accepting {run : Run α} {result : Except Failure α}
    (prints : Prints run s lines result made) (stored : List Char) :
    run.outcome ⟨s, ⟨.accepting, stored⟩⟩ =
      (result, ⟨made, ⟨.accepting, stored ++ lines.flatten⟩⟩) := by
  have ended := prints ⟨.accepting, stored⟩
  rw [Sink.printAll_accepting] at ended
  exact ended

/-- **What two runs print is printed by both of them one after the other.** -/
theorem Prints.bind {first : Run α} {a : α} {next : α → Run β} {result : Except Failure β}
    (prints : Prints first s lines (.ok a) made) (others : Prints (next a) made lines' result made') :
    Prints (first >>= next) s (lines ++ lines') result made' := by
  intro sink
  have before := prints sink
  cases taken : sink.printAll lines with
  | mk outcome printed =>
    rw [taken] at before
    cases outcome with
    | ok done =>
      rw [Sink.printAll_append_of_ok taken, outcome_bind_of_ok (congrArg Prod.fst before), before]
      exact others printed
    | error reason =>
      obtain ⟨reached, refused⟩ := before
      rw [Sink.printAll_append_of_error taken]
      refine ⟨reached, ?_⟩
      rw [outcome_bind_of_error (congrArg Prod.fst refused), refused]

/-- A run that fails is the end of what comes with it. -/
theorem Prints.bind_of_error {first : Run α} {failure : Failure}
    (prints : Prints first s lines (.error failure) made) (next : α → Run β) :
    Prints (first >>= next) s lines (.error failure) made := by
  intro sink
  have before := prints sink
  cases taken : sink.printAll lines with
  | mk outcome printed =>
    rw [taken] at before
    cases outcome with
    | ok done =>
      show (first >>= next).outcome _ = _
      rw [outcome_bind_of_error (congrArg Prod.fst before), before]
    | error reason =>
      obtain ⟨reached, refused⟩ := before
      refine ⟨reached, ?_⟩
      rw [outcome_bind_of_error (congrArg Prod.fst refused), refused]

theorem Prints.map {run : Run α} {result : Except Failure α} (f : α → β)
    (prints : Prints run s lines result made) : Prints (f <$> run) s lines (result.map f) made := by
  cases result with
  | error failure =>
    rw [map_eq_pure_bind]
    exact prints.bind_of_error _
  | ok a =>
    have ended : Prints (pure (f a)) made [] (.ok (f a)) made := fun _ => rfl
    rw [map_eq_pure_bind, ← List.append_nil lines]
    exact prints.bind ended

/-- What can be taken back is printed as before. -/
theorem Prints.of_map {run : Run α} {result : Except Failure β} {f : α → β} (g : β → α)
    (back : ∀ a, g (f a) = a) (prints : Prints (f <$> run) s lines result made) :
    ∃ result', result = result'.map f ∧ Prints run s lines result' made := by
  have taken := prints.map g
  have same : g ∘ f = id := funext back
  rw [← comp_map, same, id_map] at taken
  have ended := prints.outcome_accepting []
  rw [outcome_map] at ended
  have result : (run.outcome ⟨s, ⟨.accepting, []⟩⟩).1.map f = result := congrArg Prod.fst ended
  refine ⟨_, result.symm, ?_⟩
  rw [← result] at taken
  cases before : (run.outcome ⟨s, ⟨.accepting, []⟩⟩).1 with
  | ok a =>
    rw [before] at taken
    rwa [Except.map, Except.map, back] at taken
  | error failure =>
    rw [before] at taken
    exact taken

theorem Prints.mapDiagnostic {run : Run α} {result : Except Failure α}
    (change : Diagnostic → Diagnostic) (prints : Prints run s lines result made) :
    Prints (run.mapDiagnostic change) s lines (result.mapError (·.amend change)) made := by
  intro sink
  have before := prints sink
  cases taken : sink.printAll lines with
  | mk outcome printed =>
    rw [taken] at before
    cases outcome with
    | ok done =>
      show (run.mapDiagnostic change).outcome _ = _
      rw [outcome_mapDiagnostic, before]
    | error reason =>
      obtain ⟨reached, refused⟩ := before
      refine ⟨reached, ?_⟩
      rw [outcome_mapDiagnostic, refused]
      rfl

end Run

/-! ### Functions that print -/

namespace Builtin

theorem spaced_eq_intercalate (texts : List (List Char)) :
    spaced texts = [' '].intercalate texts := by
  induction texts with
  | nil => rfl
  | cons text rest ih =>
    cases rest with
    | nil => exact List.intercalate_singleton.symm
    | cons next rest =>
      rw [spaced, ih, List.intercalate_cons_cons, List.append_assoc]
      · rfl
      · nofun

/-- A call of `print` prints its line and makes nothing of it. -/
theorem print_prints (s : Store) (arguments : List Value) :
    ∃ v made, Run.Prints (invoke "print" arguments) s
      [[' '].intercalate (arguments.map s.str) ++ ['\n']] (.ok v) made := by
  have checked : Run.Prints (Run.act (Action.tryRead fun _ =>
      Builtin.arity .print |>.check (name .print) arguments.length)) s [] (.ok ()) s :=
    Run.prints_act_of_ok rfl
  have line : Run.Prints (Run.act (Action.read (printedLine · arguments))) s []
      (.ok (printedLine s arguments)) s :=
    Run.prints_act_of_ok rfl
  have nothing : Run.Prints (Run.act Action.null) s [] (.ok (.null s.next))
      { s with next := s.next + 1 } := Run.prints_act_of_ok rfl
  have same : [' '].intercalate (arguments.map s.str) ++ ['\n'] = printedLine s arguments := by
    rw [printedLine, spaced_eq_intercalate]
  rw [same]
  refine ⟨.null s.next, { s with next := s.next + 1 }, ?_⟩
  exact checked.bind (line.bind ((Run.prints_print (printedLine s arguments)).bind nothing))

/-- A call of any other function prints nothing. -/
theorem call_prints {function : Builtin} (silent : function ≠ .print) (s : Store)
    (arguments : List Value) :
    (∃ v made, Run.Prints (function.call arguments) s [] (.ok v) made) ∨
      ∃ failure made, Run.Prints (function.call arguments) s [] (.error failure) made := by
  have acted : function.call arguments =
      Run.act (Action.tryRead fun _ => function.arity.check function.name arguments.length) >>=
        fun _ => Run.act (function.body arguments) := by
    cases function <;> first | rfl | exact absurd rfl silent
  rw [acted]
  cases checked : function.arity.check function.name arguments.length with
  | error cause =>
    have failed : Action.tryRead (fun _ => (.error cause : Except Cause Unit)) s =
        .error cause s := rfl
    exact .inr ⟨_, s, (Run.prints_act_of_error failed).bind_of_error _⟩
  | ok done =>
    have accepted : Run.Prints (Run.act (Action.tryRead fun _ => (.ok done : Except Cause Unit))) s
        [] (.ok done) s := Run.prints_act_of_ok rfl
    refine (Run.act_prints (function.body arguments) s).imp ?_ ?_
    · exact fun ⟨v, made, prints⟩ => ⟨v, made, accepted.bind prints⟩
    · exact fun ⟨failure, made, prints⟩ => ⟨failure, made, accepted.bind prints⟩

theorem invoke_prints {name : String} (silent : name ≠ "print") (s : Store)
    (arguments : List Value) :
    (∃ v made, Run.Prints (invoke name arguments) s [] (.ok v) made) ∨
      ∃ failure made, Run.Prints (invoke name arguments) s [] (.error failure) made := by
  unfold invoke
  split
  case h_1 function found =>
    have named := List.find?_some (show table.find? (·.name = name) = some function from found)
    refine call_prints (fun same => silent ?_) s arguments
    exact (of_decide_eq_true named).symm.trans (congrArg Builtin.name same)
  case h_2 => exact .inr ⟨_, s, Run.prints_act_of_error rfl⟩

end Builtin

end CallConsole
