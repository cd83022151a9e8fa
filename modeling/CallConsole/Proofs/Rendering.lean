/-
**The text of a value is the text of its tree.**

The walk that writes a value keeps the containers that it is inside of. They are all around the
value that is being written, so none of them is met again where the value is acyclic, and the text
depends on the tree alone:

* `repr_of_unfolds`: a value that unfolds to a tree has the tree's text.
-/

import CallConsole.Proofs.Unfolding

namespace CallConsole

namespace Tree

mutual

/-- The text of a value that unfolds to the tree. -/
def text : Tree → List Char
  | .null => ['N', 'o', 'n', 'e']
  | .bool true => ['T', 'r', 'u', 'e']
  | .bool false => ['F', 'a', 'l', 's', 'e']
  | .int n => n.text
  | .str text => Quoted.encode text
  | .list ts => '[' :: commaSeparated (textAll ts) ++ [']']
  | .dict ts => '{' :: commaSeparated (textEntries ts) ++ ['}']
  | .tuple ts =>
    '(' :: commaSeparated (textAll ts) ++ if ts.length = 1 then [',', ')'] else [')']
  | .range r => r.text

/-- The texts of trees. -/
def textAll : List Tree → List (List Char)
  | [] => []
  | t :: ts => text t :: textAll ts

/-- The texts of entries, each a key and a value with a colon between them. -/
def textEntries : List (Tree × Tree) → List (List Char)
  | [] => []
  | (k, t) :: ts => (text k ++ ':' :: ' ' :: text t) :: textEntries ts

end

end Tree

namespace Store

variable {s : Store}

theorem UnfoldsAll.length_eq {vs : List Value} {ts : List Tree} (all : s.UnfoldsAll vs ts) :
    vs.length = ts.length := by
  induction vs generalizing ts with
  | nil =>
    cases all
    rfl
  | cons v vs ih =>
    cases all with
    | cons head tail => rw [List.length_cons, List.length_cons, ih tail]

mutual

/-- **Inside containers around it, an unfolded value has the text of its tree.** -/
theorem Unfolds.reprInside {v : Value} {t : Tree} (unfolds : s.Unfolds v t)
    {active : List Identity} (around : s.Around active v) : s.reprInside active v = t.text := by
  have fresh := around.fresh unfolds.acyclic
  cases unfolds with
  | null | int | str | range => rw [Store.reprInside, Tree.text]
  | bool id b => cases b <;> rw [Store.reprInside, Tree.text]
  | @list place ts all =>
    rw [Value.identity] at fresh
    rw [Store.reprInside, if_neg fresh]
    have texts := UnfoldsAll.reprItems all fun w member => around.item member
    split
    · rw [texts, Tree.text]
    · -- a list outside the store is empty
      next outside =>
        rw [items_eq_nil outside] at all
        cases all
        rfl
  | @dict place ts all =>
    rw [Value.identity] at fresh
    rw [Store.reprInside, if_neg fresh]
    have texts := UnfoldsEntries.reprEntries all (fun e member => around.entry (.key member))
      fun e member => around.entry (.value member)
    split
    · rw [texts, Tree.text]
    · next outside =>
        rw [entries_eq_nil outside] at all
        cases all
        rfl
  | tuple id all =>
    rw [Store.reprInside, UnfoldsAll.reprItems all fun w member => around.held (.element member),
      all.length_eq, Tree.text]

theorem UnfoldsAll.reprItems {vs : List Value} {ts : List Tree} (all : s.UnfoldsAll vs ts)
    {active : List Identity} (around : ∀ v ∈ vs, s.Around active v) :
    s.reprItems active vs = Tree.textAll ts := by
  cases all with
  | nil => rw [Store.reprItems, Tree.textAll]
  | cons head tail =>
    rw [Store.reprItems, Tree.textAll, Unfolds.reprInside head (around _ List.mem_cons_self),
      UnfoldsAll.reprItems tail fun w member => around w (.tail _ member)]

theorem UnfoldsEntries.reprEntries {es : List Entry} {ts : List (Tree × Tree)}
    (all : s.UnfoldsEntries es ts) {active : List Identity}
    (keys : ∀ e ∈ es, s.Around active e.key) (values : ∀ e ∈ es, s.Around active e.value) :
    s.reprEntries active es = Tree.textEntries ts := by
  cases all with
  | nil => rw [Store.reprEntries, Tree.textEntries]
  | cons key value tail =>
    rw [Store.reprEntries, Tree.textEntries, Unfolds.reprInside key (keys _ List.mem_cons_self),
      Unfolds.reprInside value (values _ List.mem_cons_self),
      UnfoldsEntries.reprEntries tail (fun e member => keys e (.tail _ member))
        fun e member => values e (.tail _ member)]

end

/-- **The text of a value is the text of its tree.** -/
theorem repr_of_unfolds {v : Value} {t : Tree} (unfolds : s.Unfolds v t) : s.repr v = t.text := by
  apply unfolds.reprInside
  intro u entered
  exact absurd entered List.not_mem_nil

end Store

end CallConsole
