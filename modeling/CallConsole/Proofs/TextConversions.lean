/-
**Calls that convert texts.**

`int` and `float` read a text without the blanks at its two ends, and `str` gives the text of a
value:

* `exists_trimmed`, `trimBlanks_between`: what is left of a text without the blanks around it;
* `Builtin.outcome_int_text`, `Builtin.outcome_float_text`: what the calls come to is what is read;
* `Builtin.outcome_str`: the text of a value, which a call behind it takes.
-/

import CallConsole.Builtin
import CallConsole.Proofs.Runs
import CallConsole.Proofs.Scanning
import Mathlib.Data.List.TakeWhile

namespace CallConsole

/-! ### Blanks around a text -/

/-- The text is blanks. -/
def AllBlank (text : List Char) : Prop := ∀ c ∈ text, isBlank c = true

/-- The text neither begins nor ends with a blank. -/
structure Trimmed (text : List Char) : Prop where
  front : ∀ c ∈ text.head?, isBlank c = false
  back : ∀ c ∈ text.getLast?, isBlank c = false

variable {text before after : List Char}

/-- A text without blanks is trimmed. -/
theorem trimmed_of_none (none : ∀ c ∈ text, isBlank c = false) : Trimmed text :=
  ⟨fun c front => none c (List.mem_of_mem_head? front),
    fun c back => none c (List.mem_of_mem_getLast? back)⟩

/-- **A text is blanks, what is left without them, and blanks.** -/
theorem exists_trimmed (text : List Char) : ∃ before after,
    text = before ++ (trimBlanks text ++ after) ∧ AllBlank before ∧ AllBlank after := by
  have taken (text : List Char) : AllBlank (text.takeWhile isBlank) :=
    fun _ member => List.mem_takeWhile_imp member
  generalize rest : (text.dropWhile isBlank).reverse = behind
  refine ⟨text.takeWhile isBlank, (behind.takeWhile isBlank).reverse, ?_, taken text,
    fun c member => taken behind c (List.mem_reverse.mp member)⟩
  rw [trimBlanks, rest, ← List.reverse_append, List.takeWhile_append_dropWhile, ← rest,
    List.reverse_reverse, List.takeWhile_append_dropWhile]

/-- Blanks in front of a text that does not begin with one are dropped. -/
theorem dropWhile_blanks (blank : AllBlank before) (front : ∀ c ∈ text.head?, isBlank c = false) :
    (before ++ text).dropWhile isBlank = text := by
  rw [List.dropWhile_append_of_pos blank, (Scanning.takeWhile_of_head front).2]

/-- **Without blanks around it, a trimmed text is left.** -/
theorem trimBlanks_between (trimmed : Trimmed text) (blank : AllBlank before)
    (blank' : AllBlank after) : trimBlanks (before ++ (text ++ after)) = text := by
  unfold trimBlanks
  cases text with
  | nil =>
    have all : ∀ c ∈ before ++ after, isBlank c = true := fun c member =>
      (List.mem_append.mp member).elim (blank c) (blank' c)
    rw [List.nil_append, List.dropWhile_eq_nil_iff.mpr all]
    rfl
  | cons c text =>
    have front : ∀ d ∈ (c :: text ++ after).head?, isBlank d = false := trimmed.front
    have back : ∀ d ∈ (c :: text).reverse.head?, isBlank d = false := by
      rw [List.head?_reverse]
      exact trimmed.back
    have blank'' : AllBlank after.reverse := fun d member => blank' d (List.mem_reverse.mp member)
    rw [dropWhile_blanks blank front, List.reverse_append, dropWhile_blanks blank'' back,
      List.reverse_reverse]

theorem Trimmed.trimBlanks_eq (trimmed : Trimmed text) : trimBlanks text = text := by
  have none : AllBlank [] := List.forall_mem_nil _
  have left := trimBlanks_between trimmed none none
  rwa [List.append_nil] at left

/-! ### Calls -/

/-- What is read is made an object; a failure to read is one of the action, and changes nothing. -/
theorem Run.outcome_act_made {α : Type} (result : Except Cause α) (make : α → Nat → Value)
    (w : World) :
    (act (Action.tryRead (fun _ => result) >>= fun a => Action.make (·.create (make a)))).outcome w =
      match result with
      | .ok a => (.ok (make a w.store.next), { w with store := (w.store.create (make a)).2 })
      | .error cause => (.error (.ofCause cause), w) := by
  cases result with
  | ok a => exact outcome_act_of_ok rfl
  | error cause => exact outcome_act_of_error rfl

namespace Builtin

/-- **`int` of a text** comes to the integer that is read. -/
theorem outcome_int_text (id : Nat) (text : List Char) (w : World) :
    (invoke "int" [.str id text]).outcome w = match Integer.ofText text with
      | .ok n => (.ok (.int w.store.next n), { w with store := (w.store.create (.int · n)).2 })
      | .error cause => (.error (.ofCause cause), w) := by
  have found : find? "int" = some .int := rfl
  have accepts : (arity .int).Accepts [Value.str id text].length := rfl
  have body : Builtin.int.body [.str id text] = (Action.tryRead (fun _ => Integer.ofText text) >>=
      fun n => Action.make (·.create (.int · n))) := rfl
  rw [outcome_invoke found nofun accepts, body, Run.outcome_act_made _ fun n id => .int id n]
  cases Integer.ofText text <;> rfl

/-- **`float` of a text** comes to the double that is read. -/
theorem outcome_float_text (id : Nat) (text : List Char) (w : World) :
    (invoke "float" [.str id text]).outcome w = match Double.ofText text with
      | .ok x => (.ok (.float w.store.next x), { w with store := (w.store.create (.float · x)).2 })
      | .error cause => (.error (.ofCause cause), w) := by
  have found : find? "float" = some .float := rfl
  have accepts : (arity .float).Accepts [Value.str id text].length := rfl
  have body : Builtin.float.body [.str id text] = (Action.tryRead (fun _ => Double.ofText text) >>=
      fun x => Action.make (·.create (.float · x))) := rfl
  rw [outcome_invoke found nofun accepts, body, Run.outcome_act_made _ fun x id => .float id x]
  cases Double.ofText text <;> rfl

/-- **`str` comes to the text of the value.** -/
theorem outcome_str (v : Value) (w : World) :
    (invoke "str" [v]).outcome w = (.ok (.str w.store.next (w.store.str v)),
      { w with store := (w.store.create (.str · (w.store.str v))).2 }) := by
  have found : find? "str" = some .str := rfl
  have accepts : (arity .str).Accepts [v].length := ⟨Nat.zero_le 1, Nat.le_refl 1⟩
  exact (outcome_invoke found nofun accepts).trans (Run.outcome_act_of_ok rfl)

end Builtin

end CallConsole
