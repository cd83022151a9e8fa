/-
**What can be reached from a value.**

A value directly holds its items, keys, values and sources. What it reaches is whatever can be found
by following such references any number of times, through lists and dicts that hold themselves too.
-/

import CallConsole.Store
import Mathlib.Logic.Relation

namespace CallConsole

/-- The value is a double that is no number. -/
def Value.IsNan : Value → Prop
  | .float _ x => x.isNan = true
  | _ => False

namespace Store

/-- The first value directly holds the second one. -/
inductive Holds (s : Store) : Value → Value → Prop
  | item {place : Nat} {v : Value} : v ∈ s.items place → Holds s (.list place) v
  | key {place : Nat} {e : Entry} : e ∈ (s.contents place).entries → Holds s (.dict place) e.key
  | value {place : Nat} {e : Entry} :
      e ∈ (s.contents place).entries → Holds s (.dict place) e.value
  | element {id : Nat} {items : List Value} {v : Value} : v ∈ items → Holds s (.tuple id items) v
  | reversed {id : Nat} {items : List Value} {v : Value} :
      v ∈ items → Holds s (.reversed id items) v
  | source {id : Nat} {v : Value} {start : Integer} : Holds s (.enumerate id v start) v
  | part {id : Nat} {sources : List Value} {v : Value} : v ∈ sources → Holds s (.zip id sources) v

/-- The second value is the first one, or can be found inside it. -/
def Reaches (s : Store) : Value → Value → Prop := Relation.ReflTransGen s.Holds

/-- No NaN can be found in the value. -/
def NanFree (s : Store) (v : Value) : Prop := ∀ w, s.Reaches v w → ¬ w.IsNan

/-- Nothing that can be found in the value contains itself. -/
def Acyclic (s : Store) (v : Value) : Prop :=
  ∀ w, s.Reaches v w → ¬ Relation.TransGen s.Holds w w

variable {s : Store} {v w : Value}

/-- There are no items at a place outside the store. -/
theorem items_eq_nil {place : Nat} (outside : ¬ place < s.lists.size) :
    (s.items place).toList = [] := by
  rw [items, Array.getElem?_eq_none (Nat.le_of_not_lt outside)]
  rfl

/-- There are no entries at a place outside the store. -/
theorem entries_eq_nil {place : Nat} (outside : ¬ place < s.dicts.size) :
    (s.contents place).entries = [] := by
  rw [contents, Array.getElem?_eq_none (Nat.le_of_not_lt outside)]
  rfl

/-- A list that holds something is one of the store. -/
theorem lt_size_of_mem_items {place : Nat} {v : Value} (member : v ∈ (s.items place).toList) :
    place < s.lists.size := by
  refine Decidable.byContradiction fun outside => ?_
  rw [items_eq_nil outside] at member
  cases member

/-- A dict that holds something is one of the store. -/
theorem lt_size_of_mem_entries {place : Nat} {e : Entry}
    (member : e ∈ (s.contents place).entries) : place < s.dicts.size := by
  refine Decidable.byContradiction fun outside => ?_
  rw [entries_eq_nil outside] at member
  cases member

/-- What a NaN-free value holds is NaN-free. -/
theorem NanFree.of_holds (free : s.NanFree v) (holds : s.Holds v w) : s.NanFree w := by
  intro u reached
  exact free u (reached.head holds)

/-- The items of a NaN-free list are NaN-free. -/
theorem NanFree.items {place : Nat} (free : s.NanFree (.list place)) :
    ∀ v ∈ (s.items place).toList, s.NanFree v := by
  intro v member
  exact free.of_holds (.item (Array.mem_toList_iff.mp member))

/-- The items of a NaN-free tuple are NaN-free. -/
theorem NanFree.elements {id : Nat} {items : List Value} (free : s.NanFree (.tuple id items)) :
    ∀ v ∈ items, s.NanFree v := by
  intro v member
  exact free.of_holds (.element member)

/-- A NaN-free value is no NaN itself. -/
theorem NanFree.not_isNan (free : s.NanFree v) : ¬ v.IsNan := free v .refl

/-- A value is NaN-free if it is no NaN itself and holds only NaN-free values. -/
theorem nanFree_of_forall (number : ¬ v.IsNan) (held : ∀ w, s.Holds v w → s.NanFree w) :
    s.NanFree v := by
  intro u reached
  rcases reached.cases_head with rfl | ⟨w, holds, rest⟩
  · exact number
  · exact held w holds u rest

/-- What an acyclic value holds is acyclic. -/
theorem Acyclic.of_holds (acyclic : s.Acyclic v) (holds : s.Holds v w) : s.Acyclic w := by
  intro u reached
  exact acyclic u (reached.head holds)

end Store

end CallConsole
