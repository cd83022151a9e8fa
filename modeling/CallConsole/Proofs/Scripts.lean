/-
**Scripts one after the other.**

A script that ends its last line can be followed by another one. The lines of both together are the
lines of the one and then those of the other, so running them together is running the first one and,
if that succeeds, the second one; only the numbers of its lines are larger then:

* `lines_append`: the lines of two texts;
* `runLines_append`: running more lines behind others;
* `runLines_add`: what the number of the first line has to do with a run;
* `runSource_append`: all of this together, with the count of the lines that were evaluated.
-/

import Mathlib
import CallConsole.Proofs.Runs

namespace CallConsole

/-! ### Diagnostics of runs -/

/-- The failure passed through lines that stand that many lines further down. -/
def Diagnostic.lower (count : Nat) (d : Diagnostic) : Diagnostic :=
  { d with lines := d.lines.map (· + count) }

namespace Run

variable {α β : Type} {w w' : World}

/-- **No diagnostic of the run has passed through a line of a script.** -/
def Unnoted (run : Run α) : Prop :=
  ∀ ⦃w d w'⦄, run w = .error (.diagnostic d) w' → d.lines = []

theorem unnoted_pure (a : α) : Unnoted (pure a) := fun _ _ _ ran => nomatch ran

theorem unnoted_fail {d : Diagnostic} (none : d.lines = []) : Unnoted (fail (α := α) d) := by
  intro w d' w' ran
  cases ran
  exact none

theorem unnoted_act (action : Action α) : Unnoted (act action) := by
  intro w d w' ran
  unfold act at ran
  split at ran <;> cases ran
  rfl

theorem unnoted_print (line : List Char) : Unnoted (print line) := by
  intro w d w' ran
  unfold print at ran
  split at ran <;> cases ran

theorem Unnoted.bind {first : Run α} {next : α → Run β} (unnoted : Unnoted first)
    (others : ∀ a, Unnoted (next a)) : Unnoted (first >>= next) := by
  intro w d w' ran
  rcases EStateM.error_of_bind ran with failed | ⟨a, w₁, _, failed⟩
  · exact unnoted failed
  · exact others a failed

theorem Unnoted.blame {run : Run α} (unnoted : Unnoted run) (span : Span) :
    Unnoted (run.mapDiagnostic (·.blame span)) := by
  intro w d w' ran
  obtain ⟨d', failed, rfl⟩ := error_of_mapDiagnostic ran
  have unknown : d'.lines = [] := unnoted failed
  exact unknown

/-- What is done to the lines of its diagnostics does not matter for a run that has none. -/
theorem Unnoted.mapDiagnostic_congr {run : Run α} (unnoted : Unnoted run)
    {change change' : Diagnostic → Diagnostic} (same : ∀ d, d.lines = [] → change d = change' d) :
    run.mapDiagnostic change = run.mapDiagnostic change' := by
  funext w
  unfold mapDiagnostic
  cases ran : run w with
  | ok a w' => rfl
  | error failure w' =>
    cases failure with
    | sink reason => rfl
    | diagnostic d =>
      dsimp only
      rw [same d (unnoted ran)]

end Run

open Run

/-! ### Evaluation knows no lines -/

namespace Builtin

theorem printAll_unnoted (arguments : List Value) : Unnoted (printAll arguments) :=
  (unnoted_act _).bind fun line => (unnoted_print line).bind fun _ => unnoted_act _

theorem invoke_unnoted (name : String) (arguments : List Value) :
    Unnoted (invoke name arguments) := by
  unfold invoke
  split
  case h_1 function found =>
    refine (unnoted_act _).bind fun _ => ?_
    split
    · exact printAll_unnoted arguments
    · exact unnoted_act _
  case h_2 => exact unnoted_act _

end Builtin

namespace Console

mutual

/-- **The evaluation of an expression knows no lines of scripts.** -/
theorem evaluate_unnoted (e : Expression) : Unnoted (evaluate e) := by
  cases e with
  | literal span value => exact unnoted_act _
  | name span name => exact unnoted_fail rfl
  | call span function arguments =>
    refine (evaluateAll_unnoted arguments).bind fun values => ?_
    exact (Builtin.invoke_unnoted function values).blame span
  | list span items => exact (evaluateAll_unnoted items).bind fun values => unnoted_act _
  | tuple span items => exact (evaluateAll_unnoted items).bind fun values => unnoted_act _
  | dict span entries =>
    exact (evaluateEntries_unnoted Dict.empty entries).bind fun d => unnoted_act _
  | group span inner => exact evaluate_unnoted inner

theorem evaluateAll_unnoted (es : List Expression) : Unnoted (evaluateAll es) := by
  cases es with
  | nil => exact unnoted_pure _
  | cons e rest =>
    refine (evaluate_unnoted e).bind fun v => ?_
    exact (evaluateAll_unnoted rest).bind fun vs => unnoted_pure _

theorem evaluateEntries_unnoted (d : Dict) (pairs : List (Expression × Expression)) :
    Unnoted (evaluateEntries d pairs) := by
  match pairs with
  | [] => exact unnoted_pure d
  | (key, value) :: rest =>
    refine (evaluate_unnoted key).bind fun k => (evaluate_unnoted value).bind fun v => ?_
    exact (unnoted_act _).bind fun changed => evaluateEntries_unnoted changed rest

end

theorem evalSource_unnoted (source : List Char) : Unnoted (evalSource source) := by
  unfold evalSource
  split
  · exact unnoted_fail rfl
  · exact evaluate_unnoted _

/-! ### The lines of a text -/

/-- The text is empty or ends with a line break. -/
def EndsLine (text : List Char) : Prop := text = [] ∨ text.getLast? = some '\n'

theorem EndsLine.tail {c : Char} {rest : List Char} (ends : EndsLine (c :: rest)) :
    EndsLine rest := by
  rcases ends with empty | last
  · cases empty
  · cases rest with
    | nil => exact .inl rfl
    | cons next more => exact .inr (by rwa [List.getLast?_cons_cons] at last)

/-- A text that is not empty has a line. -/
theorem lines_ne_nil {text : List Char} (nonempty : text ≠ []) : lines text ≠ [] := by
  fun_cases lines text with
  | case1 => exact absurd rfl nonempty
  | case2 | case3 | case4 | case5 => exact List.cons_ne_nil _ _

/-- A line that does not end at once goes on, if the text ends its last line. -/
theorem EndsLine.goes_on {c : Char} {rest : List Char} (ends : EndsLine (c :: rest))
    (newline : c ≠ '\n') : lines rest ≠ [] := by
  refine lines_ne_nil fun empty => ?_
  subst empty
  rcases ends with empty | last
  · cases empty
  · exact newline (Option.some.inj last)

/-- A character of a line that goes on is put in front of the line. -/
theorem lines_cons {c : Char} {rest line : List Char} {more : List (List Char)}
    (newline : c ≠ '\n') (carriage : ∀ after, c = '\r' → rest ≠ '\n' :: after)
    (found : lines rest = line :: more) : lines (c :: rest) = (c :: line) :: more := by
  rw [lines]
  · rw [found]
  · exact newline
  · exact carriage

/-- **The lines of two texts** are the lines of the one and then those of the other. -/
theorem lines_append {first : List Char} (ends : EndsLine first) (second : List Char) :
    lines (first ++ second) = lines first ++ lines second := by
  fun_induction lines first with
  | case1 => rfl
  | case2 rest ih =>
    rw [List.cons_append, lines, ih ends.tail]
    rfl
  | case3 rest ih =>
    rw [List.cons_append, List.cons_append, lines, ih ends.tail.tail]
    rfl
  | case4 c rest newline carriage none ih =>
    exact absurd none (ends.goes_on newline)
  | case5 c rest newline carriage line more found ih =>
    have behind : lines (rest ++ second) = line :: (more ++ lines second) := by
      rw [ih ends.tail, found]
      rfl
    have apart : ∀ after, c = '\r' → rest ++ second ≠ '\n' :: after := by
      intro after same begins
      cases rest with
      | nil => cases found
      | cons next others =>
        cases begins
        exact carriage others same rfl
    rw [List.cons_append, lines_cons newline apart behind]
    rfl

/-- Every line of the text ends with a line break. -/
theorem length_lines {text : List Char} (ends : EndsLine text) :
    (lines text).length = text.count '\n' := by
  fun_induction lines text with
  | case1 => rfl
  | case2 rest ih => rw [List.length_cons, ih ends.tail, List.count_cons_self]
  | case3 rest ih =>
    rw [List.length_cons, ih ends.tail.tail, List.count_cons_of_ne (by decide),
      List.count_cons_self]
  | case4 c rest newline carriage none ih => exact absurd none (ends.goes_on newline)
  | case5 c rest newline carriage line more found ih =>
    have counted := ih ends.tail
    rw [found] at counted
    rw [List.count_cons_of_ne newline, ← counted]
    rfl

/-! ### Lines one after the other -/

variable {w w' : World}

/-- **Running more lines behind others** is running the others first. -/
theorem runLines_append (number : Nat) (first second : List (List Char)) :
    runLines number (first ++ second) = (do
      let m ← runLines number first
      let n ← runLines (number + first.length) second
      pure (m + n)) := by
  induction first generalizing number with
  | nil =>
    show runLines number second = (do let n ← runLines number second; pure (0 + n))
    simp only [Nat.zero_add, bind_pure]
  | cons line rest ih =>
    have further : number + (line :: rest).length = number + 1 + rest.length := by
      rw [List.length_cons]
      omega
    rw [List.cons_append, runLines, runLines, further]
    split
    case isTrue blank => exact ih (number + 1)
    case isFalse solid =>
      rw [ih]
      simp only [bind_assoc, pure_bind, Nat.add_right_comm]

/-- **The number of the first line** is added to those of the lines that failures learn. -/
theorem runLines_add (number count : Nat) (lines : List (List Char)) :
    runLines (number + count) lines =
      (runLines number lines).mapDiagnostic (Diagnostic.lower count) := by
  induction lines generalizing number with
  | nil => rfl
  | cons line rest ih =>
    rw [runLines, runLines, Nat.add_right_comm, ih]
    split
    case isTrue blank => rfl
    case isFalse solid =>
      have learnt : (evalSource line).mapDiagnostic (·.atLine (number + count)) =
          ((evalSource line).mapDiagnostic (·.atLine number)).mapDiagnostic (.lower count) := by
        rw [mapDiagnostic_mapDiagnostic]
        refine (evalSource_unnoted line).mapDiagnostic_congr fun d unknown => ?_
        rw [Diagnostic.atLine, Diagnostic.atLine, Diagnostic.lower, unknown]
        rfl
      rw [learnt, mapDiagnostic_bind]
      congr 1
      funext _
      rw [mapDiagnostic_bind]
      rfl

/-- A failure learns the line that it happened in, and nothing else. -/
theorem line_of_runLines {number : Nat} {lines : List (List Char)} {d : Diagnostic}
    (ran : runLines number lines w = .error (.diagnostic d) w') :
    ∃ line, d.lines = [line] ∧ number ≤ line ∧ line < number + lines.length := by
  induction lines generalizing number w with
  | nil => cases ran
  | cons first rest ih =>
    have later {w₁ : World} (failed : runLines (number + 1) rest w₁ = .error (.diagnostic d) w') :
        ∃ line, d.lines = [line] ∧ number ≤ line ∧ line < number + (first :: rest).length := by
      obtain ⟨line, learnt, least, most⟩ := ih failed
      rw [List.length_cons]
      exact ⟨line, learnt, by omega, by omega⟩
    rw [runLines] at ran
    split at ran
    case isTrue blank => exact later ran
    case isFalse solid =>
      rcases EStateM.error_of_bind ran with failed | ⟨_, w₁, _, failed⟩
      · obtain ⟨d', unknown, rfl⟩ := error_of_mapDiagnostic failed
        refine ⟨number, ?_, Nat.le_refl _, Nat.lt_add_of_pos_right (Nat.succ_pos _)⟩
        rw [Diagnostic.atLine, evalSource_unnoted first unknown]
        rfl
      · rcases EStateM.error_of_bind failed with failed | ⟨n, w₂, _, failed⟩
        · exact later failed
        · cases failed

/-- A run that succeeds counts the lines that are not blank. -/
theorem count_of_runLines {number n : Nat} {lines : List (List Char)}
    (ran : runLines number lines w = .ok n w') : n = lines.countP (!isBlankSource ·) := by
  induction lines generalizing number n w with
  | nil => cases ran; rfl
  | cons first rest ih =>
    rw [runLines] at ran
    rw [List.countP_cons]
    split at ran
    case isTrue blank =>
      rw [blank]
      exact ih ran
    case isFalse solid =>
      obtain ⟨_, w₁, _, ran⟩ := EStateM.exists_of_bind_ok ran
      obtain ⟨m, w₂, counted, ran⟩ := EStateM.exists_of_bind_ok ran
      cases ran
      rw [ih counted, Bool.of_not_eq_true solid]
      rfl

/-! ### Scripts -/

/-- **Scripts compose.** A script that is empty or ends with a line break is run, and others may
follow it. If it fails, nothing that follows has an effect. If it succeeds, running it with another
one behind it is running that other one next, on the same console: what is printed and made is the
same, the counts are added up, a failure of the sink is the same one, and a diagnostic notes its
line, counted on from the lines before. The count of a script that succeeds is that of its lines
that are not blank. -/
theorem runSource_append (w : World) {first : List Char} (ends : EndsLine first) :
    let ran := (runSource first).outcome w
    (∀ failure, ran.1 = .error failure →
      ∀ second, (runSource (first ++ second)).outcome w = ran) ∧
    (∀ m, ran.1 = .ok m → ∀ second,
      let again := (runSource second).outcome ran.2
      let both := (runSource (first ++ second)).outcome w
      both.2 = again.2 ∧
      (∀ n, again.1 = .ok n → both.1 = .ok (m + n)) ∧
      (∀ reason, again.1 = .error (.sink reason) → both.1 = .error (.sink reason)) ∧
      ∀ d, again.1 = .error (.diagnostic d) → ∃ line, 1 ≤ line ∧ line ≤ (lines second).length ∧
        d.lines = [line] ∧
        both.1 = .error (.diagnostic { d with lines := [line + first.count '\n'] })) ∧
    ∀ source count, ((runSource source).outcome w).1 = .ok count →
      count = (lines source).countP (!isBlankSource ·) := by
  intro ran
  have split (second : List Char) : runSource (first ++ second) = (do
      let m ← runSource first
      let n ← (runSource second).mapDiagnostic (.lower (first.count '\n'))
      pure (m + n)) := by
    rw [runSource, lines_append ends, runLines_append, runLines_add, length_lines ends]
    rfl
  refine ⟨fun failure failed second => ?_, fun m done second => ?_, fun source count done => ?_⟩
  · rw [split, outcome_bind_of_error failed]
    exact Prod.ext failed.symm rfl
  · intro again both
    have next : both = ((runSource second).mapDiagnostic (.lower (first.count '\n')) >>=
        fun n => pure (m + n)).outcome ran.2 := by
      show (runSource (first ++ second)).outcome w = _
      rw [split]
      exact outcome_bind_of_ok done _
    rw [next, outcome_mapDiagnostic_bind (runSource second) ran.2 _ (m + ·)]
    refine ⟨rfl, fun n counted => ?_, fun reason sunk => ?_, fun d failed => ?_⟩
    · exact congrArg (fun ended => (Except.mapError _ ended).map (m + ·)) counted
    · exact congrArg (fun ended => (Except.mapError _ ended).map (m + ·)) sunk
    obtain ⟨w', ran'⟩ := exists_of_outcome_error failed
    obtain ⟨line, learnt, least, most⟩ := line_of_runLines ran'
    refine ⟨line, least, by omega, learnt, ?_⟩
    rw [failed]
    show Except.error (Failure.diagnostic (d.lower (first.count '\n'))) = _
    rw [Diagnostic.lower, learnt]
    rfl
  · obtain ⟨w', ran'⟩ := exists_of_outcome_ok done
    exact count_of_runLines ran'

/-- A call, a comment and an empty line, with line breaks of both kinds. -/
def greeting : List Char := "print(1)\r\n# note\n\n".toList

/-- A call that succeeds, and one that does not. -/
def mistake : List Char := "print('a')\nint('x')\nprint(2)".toList

/-- The mistake is in the second line of its script, and in the fifth one of both. -/
theorem runSource_append_mistake :
    EndsLine greeting ∧
      ((runSource greeting).outcome World.empty).1 = .ok 1 ∧
      ((runSource mistake).outcome ((runSource greeting).outcome World.empty).2).1 =
        .error (.diagnostic ⟨.integerTextMalformed ['x'], some ⟨0, 8⟩, [2]⟩) ∧
      ((runSource (greeting ++ mistake)).outcome World.empty).1 =
        .error (.diagnostic ⟨.integerTextMalformed ['x'], some ⟨0, 8⟩, [5]⟩) ∧
      ((runSource (greeting ++ mistake)).outcome World.empty).2.sink.stored =
        ['1', '\n', 'a', '\n'] := by
  have ends : EndsLine greeting := .inr (by decide)
  have done : ((runSource greeting).outcome World.empty).1 = .ok 1 := by cbv
  have failed : ((runSource mistake).outcome ((runSource greeting).outcome World.empty).2).1 =
      .error (.diagnostic ⟨.integerTextMalformed ['x'], some ⟨0, 8⟩, [2]⟩) := by cbv
  have printed : ((runSource mistake).outcome
      ((runSource greeting).outcome World.empty).2).2.sink.stored = ['1', '\n', 'a', '\n'] := by
    cbv
  obtain ⟨world, _, _, noted⟩ := (runSource_append World.empty ends).2.1 1 done mistake
  obtain ⟨line, _, _, learnt, both⟩ := noted _ failed
  cases learnt
  exact ⟨ends, done, failed, both, by rw [world, printed]⟩

end Console

end CallConsole
