/-
**Walks through containers that may hold themselves.**

A walk keeps the containers that it is inside of, and never enters one of them again. There are only
finitely many, so each step inside leaves fewer of them outside (`outside_cons_lt`), and the walk
ends.
-/

namespace CallConsole

variable {α : Type} [DecidableEq α]

/-- How many of all things the walk is not inside of. -/
def outside (all inside : List α) : Nat := all.countP fun x => !inside.contains x

/-- **Entering one more thing leaves fewer outside.** -/
theorem outside_cons_lt {all inside : List α} {x : α} (known : x ∈ all) (fresh : x ∉ inside) :
    outside all (x :: inside) < outside all inside := by
  unfold outside
  induction all with
  | nil => cases known
  | cons head rest ih =>
    have weaker : (rest.countP fun y => !(x :: inside).contains y) ≤
        rest.countP fun y => !inside.contains y :=
      List.countP_mono_left fun y _ away => by
        simp only [List.contains_cons, Bool.not_or, Bool.and_eq_true] at away
        exact away.2
    simp only [List.countP_cons]
    rcases List.mem_cons.mp known with rfl | later
    · have before : (!inside.contains x) = true := by simp [fresh]
      have after : (!(x :: inside).contains x) = false := by simp
      rw [before, after]
      simp only [if_true, Bool.false_eq_true, if_false]
      omega
    · have fewer := ih later
      by_cases entered : head ∈ inside
      · simp only [List.contains_eq_mem, entered, List.mem_cons, or_true, decide_true,
          Bool.not_true, Bool.false_eq_true, if_false, Nat.add_zero] at fewer ⊢
        exact fewer
      · by_cases equal : head = x
        · simp only [List.contains_eq_mem, equal, fresh, List.mem_cons, true_or, decide_true,
            decide_false, Bool.not_true, Bool.not_false, Bool.false_eq_true, if_false, if_true,
            Nat.add_zero] at fewer ⊢
          omega
        · simp only [List.contains_eq_mem, entered, equal, List.mem_cons, or_false, decide_false,
            Bool.not_false, if_true, Nat.add_lt_add_iff_right] at fewer ⊢
          exact fewer

end CallConsole
