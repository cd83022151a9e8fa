/-
**The text of a value in machine operations.**

The walk that writes a value has one kind of part that can go wrong: the layout of a double, with
its cuts and counts. Everything else is written character by character.

* `repr_eq`, `str_eq`: the walk ends without a fault, with the text of the value.
-/

import CallConsole.Proofs.Checked.FloatText
import CallConsole.Render

namespace CallConsole

namespace Checked

mutual

/-- The text of a value inside the given containers. -/
def reprInside (s : Store) (active : List Identity) : Value → Checked (List Char)
  | .float _ x => floatText x
  | .list place =>
    if .list place ∈ active then .ok ['[', '.', '.', '.', ']']
    else if _inside : place < s.lists.size then do
      let texts ← reprItems s (.list place :: active) (s.items place).toList
      .ok ('[' :: commaSeparated texts ++ [']'])
    else .ok ['[', ']']
  | .dict place =>
    if .dict place ∈ active then .ok ['{', '.', '.', '.', '}']
    else if _inside : place < s.dicts.size then do
      let texts ← reprEntries s (.dict place :: active) (s.contents place).entries
      .ok ('{' :: commaSeparated texts ++ ['}'])
    else .ok ['{', '}']
  | .tuple _ items => do
    let texts ← reprItems s active items
    .ok ('(' :: commaSeparated texts ++ if items.length = 1 then [',', ')'] else [')'])
  | v => .ok (s.reprInside active v)
termination_by v => (outside s.containers active, sizeOf v)
decreasing_by
  · exact Prod.Lex.left _ _ (outside_cons_lt (Store.list_mem_containers _inside) ‹¬ _›)
  · exact Prod.Lex.left _ _ (outside_cons_lt (Store.dict_mem_containers _inside) ‹¬ _›)
  · exact Prod.Lex.right _ (by simp +arith)

/-- The texts of items. -/
def reprItems (s : Store) (active : List Identity) : List Value → Checked (List (List Char))
  | [] => .ok []
  | item :: rest => do
    let text ← reprInside s active item
    let texts ← reprItems s active rest
    .ok (text :: texts)
termination_by items => (outside s.containers active, sizeOf items)
decreasing_by
  all_goals exact Prod.Lex.right _ (by simp +arith)

/-- The texts of entries, each a key and a value with a colon between them. -/
def reprEntries (s : Store) (active : List Identity) : List Entry → Checked (List (List Char))
  | [] => .ok []
  | e :: rest => do
    let key ← reprInside s active e.key
    let value ← reprInside s active e.value
    let texts ← reprEntries s active rest
    .ok ((key ++ ':' :: ' ' :: value) :: texts)
termination_by entries => (outside s.containers active, sizeOf entries)
decreasing_by
  · exact Prod.Lex.right _ (by cases e; simp +arith)
  · exact Prod.Lex.right _ (by cases e; simp +arith)
  · exact Prod.Lex.right _ (by simp +arith)

end

/-- The text of a value inside containers and on the console. -/
def repr (s : Store) (v : Value) : Checked (List Char) := reprInside s [] v

/-- The text of a value by itself. -/
def str (s : Store) : Value → Checked (List Char)
  | .str _ text => .ok text
  | v => repr s v

variable (s : Store)

mutual

/-- **The walk writes the text of the value**, whatever containers it is inside of. -/
theorem reprInside_eq (active : List Identity) (v : Value) :
    reprInside s active v = .ok (s.reprInside active v) := by
  cases v with
  | null | bool | int | str | range | reversed | reversedRange | enumerate | zip =>
    rw [reprInside] <;> nofun
  | float id x => rw [reprInside, Store.reprInside, floatText_eq]
  | list place =>
    rw [reprInside, Store.reprInside]
    by_cases met : .list place ∈ active
    · rw [if_pos met, if_pos met]
    · rw [if_neg met, if_neg met]
      by_cases inside : place < s.lists.size
      · rw [dif_pos inside, dif_pos inside, reprItems_eq (.list place :: active) _, ok_bind]
      · rw [dif_neg inside, dif_neg inside]
  | dict place =>
    rw [reprInside, Store.reprInside]
    by_cases met : .dict place ∈ active
    · rw [if_pos met, if_pos met]
    · rw [if_neg met, if_neg met]
      by_cases inside : place < s.dicts.size
      · rw [dif_pos inside, dif_pos inside, reprEntries_eq (.dict place :: active) _, ok_bind]
      · rw [dif_neg inside, dif_neg inside]
  | tuple id items => rw [reprInside, Store.reprInside, reprItems_eq active items, ok_bind]
termination_by (outside s.containers active, sizeOf v)
decreasing_by
  · exact Prod.Lex.left _ _ (outside_cons_lt (Store.list_mem_containers inside) met)
  · exact Prod.Lex.left _ _ (outside_cons_lt (Store.dict_mem_containers inside) met)
  · exact Prod.Lex.right _ (by simp +arith)

theorem reprItems_eq (active : List Identity) (vs : List Value) :
    reprItems s active vs = .ok (s.reprItems active vs) := by
  cases vs with
  | nil => rw [reprItems, Store.reprItems]
  | cons v rest =>
    rw [reprItems, Store.reprItems, reprInside_eq active v, ok_bind, reprItems_eq active rest,
      ok_bind]
termination_by (outside s.containers active, sizeOf vs)
decreasing_by
  all_goals exact Prod.Lex.right _ (by simp +arith)

theorem reprEntries_eq (active : List Identity) (entries : List Entry) :
    reprEntries s active entries = .ok (s.reprEntries active entries) := by
  cases entries with
  | nil => rw [reprEntries, Store.reprEntries]
  | cons e rest =>
    rw [reprEntries, Store.reprEntries, reprInside_eq active e.key, ok_bind,
      reprInside_eq active e.value, ok_bind, reprEntries_eq active rest, ok_bind]
termination_by (outside s.containers active, sizeOf entries)
decreasing_by
  · exact Prod.Lex.right _ (by cases e; simp +arith)
  · exact Prod.Lex.right _ (by cases e; simp +arith)
  · exact Prod.Lex.right _ (by simp +arith)

end

/-- **Writing a value does not go wrong.** -/
theorem repr_eq (v : Value) : repr s v = .ok (s.repr v) := reprInside_eq s [] v

theorem str_eq (v : Value) : str s v = .ok (s.str v) := by
  cases v with
  | str => rfl
  | _ => exact repr_eq s _

end Checked

end CallConsole
