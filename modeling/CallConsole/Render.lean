/-
**The text of a value.**

Containers are written with the text of what they hold. A list or dict inside itself is written as
`[...]` or `{...}`; the walk keeps the containers that it is inside of to see it.
-/

import CallConsole.Store
import CallConsole.Visiting

namespace CallConsole

/-- Items with a comma and a blank between them. -/
def commaSeparated : List (List Char) → List Char
  | [] => []
  | [item] => item
  | item :: rest => item ++ ',' :: ' ' :: commaSeparated rest

/-- The decimal text of an integer. -/
def Integer.text (n : Integer) : List Char :=
  (if n.toInt < 0 then ['-'] else []) ++ Nat.toDigits 10 n.toInt.natAbs

/-- The call that makes a range; a step of one is left out. -/
def Range.text (r : Range) : List Char :=
  ['r', 'a', 'n', 'g', 'e', '('] ++
    commaSeparated ([r.start.text, r.stop.text] ++ if r.step = 1 then [] else [r.step.text]) ++
    [')']

namespace Store

/-- All lists and dicts of the store. -/
def containers (s : Store) : List Identity :=
  (List.range s.lists.size).map .list ++ (List.range s.dicts.size).map .dict

/-- A list of the store is one of its containers. -/
theorem list_mem_containers {s : Store} {place : Nat} (inside : place < s.lists.size) :
    .list place ∈ s.containers := by
  simp [containers, inside]

/-- A dict of the store is one of its containers. -/
theorem dict_mem_containers {s : Store} {place : Nat} (inside : place < s.dicts.size) :
    .dict place ∈ s.containers := by
  simp [containers, inside]

mutual

/-- The text of a value inside the given containers. -/
def reprInside (s : Store) (active : List Identity) : Value → List Char
  | .null _ => ['N', 'o', 'n', 'e']
  | .bool _ true => ['T', 'r', 'u', 'e']
  | .bool _ false => ['F', 'a', 'l', 's', 'e']
  | .int _ n => n.text
  | .float _ x => x.text
  | .str _ text => Quoted.encode text
  | .list place =>
    if .list place ∈ active then ['[', '.', '.', '.', ']']
    else if _inside : place < s.lists.size then
      '[' :: commaSeparated (reprItems s (.list place :: active) (s.items place).toList) ++ [']']
    else ['[', ']']
  | .dict place =>
    if .dict place ∈ active then ['{', '.', '.', '.', '}']
    else if _inside : place < s.dicts.size then
      '{' :: commaSeparated (reprEntries s (.dict place :: active) (s.contents place).entries) ++
        ['}']
    else ['{', '}']
  | .tuple _ items =>
    '(' :: commaSeparated (reprItems s active items) ++
      if items.length = 1 then [',', ')'] else [')']
  | .range _ r => r.text
  | .reversed .. | .reversedRange .. => "<reversed object>".toList
  | .enumerate .. => "<enumerate object>".toList
  | .zip .. => "<zip object>".toList
termination_by v => (outside s.containers active, sizeOf v)
decreasing_by
  · exact Prod.Lex.left _ _ (outside_cons_lt (list_mem_containers _inside) ‹¬ _›)
  · exact Prod.Lex.left _ _ (outside_cons_lt (dict_mem_containers _inside) ‹¬ _›)
  · exact Prod.Lex.right _ (by simp +arith)

/-- The texts of items. -/
def reprItems (s : Store) (active : List Identity) : List Value → List (List Char)
  | [] => []
  | item :: rest => reprInside s active item :: reprItems s active rest
termination_by items => (outside s.containers active, sizeOf items)
decreasing_by
  all_goals exact Prod.Lex.right _ (by simp +arith)

/-- The texts of entries, each a key and a value with a colon between them. -/
def reprEntries (s : Store) (active : List Identity) : List Entry → List (List Char)
  | [] => []
  | e :: rest =>
    (reprInside s active e.key ++ ':' :: ' ' :: reprInside s active e.value) ::
      reprEntries s active rest
termination_by entries => (outside s.containers active, sizeOf entries)
decreasing_by
  · exact Prod.Lex.right _ (by cases e; simp +arith)
  · exact Prod.Lex.right _ (by cases e; simp +arith)
  · exact Prod.Lex.right _ (by simp +arith)

end

/-- **The text of a value inside containers and on the console.** -/
def repr (s : Store) (v : Value) : List Char := s.reprInside [] v

/-- **The text of a value by itself**: strings are bare. -/
def str (s : Store) : Value → List Char
  | .str _ text => text
  | v => s.repr v

end Store

end CallConsole
