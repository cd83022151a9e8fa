/-
**Stable sorting by a comparison that may fail.**

The sort halves the sequence, sorts both halves and merges them, asking only whether an item of the
right half must come before one of the left half. The first comparison that fails ends the sort.
-/

import CallConsole.Comparison

namespace CallConsole

namespace Sorting

variable {α β ε : Type}

/-- Merges two runs. An item of the right run goes first only if it `precedes` the left one. -/
def merge (precedes : α → α → Except ε Bool) : List α → List α → Except ε (List α)
  | [], right => .ok right
  | left, [] => .ok left
  | l :: left, r :: right =>
    match precedes r l with
    | .error e => .error e
    | .ok true => (merge precedes (l :: left) right).map (r :: ·)
    | .ok false => (merge precedes left (r :: right)).map (l :: ·)
termination_by left right => left.length + right.length

/-- **Merge sort.** -/
def sort (precedes : α → α → Except ε Bool) (items : List α) : Except ε (List α) :=
  if _many : 2 ≤ items.length then
    match sort precedes (items.take (items.length / 2)) with
    | .error e => .error e
    | .ok left =>
      match sort precedes (items.drop (items.length / 2)) with
      | .error e => .error e
      | .ok right => merge precedes left right
  else .ok items
termination_by items.length
decreasing_by
  · simp only [List.length_take]; omega
  · simp only [List.length_drop]; omega

/-- Merging loses nothing and adds nothing. -/
theorem merge_perm {precedes : α → α → Except ε Bool} {left right merged : List α}
    (done : merge precedes left right = .ok merged) : merged.Perm (left ++ right) := by
  fun_induction merge precedes left right generalizing merged with
  | case1 right =>
    cases done
    exact .refl _
  | case2 left =>
    cases done
    rw [List.append_nil]
  | case3 => cases done
  | case4 l left r right first ih =>
    cases others : merge precedes (l :: left) right with
    | error e =>
      rw [others] at done
      cases done
    | ok rest =>
      rw [others] at done
      cases done
      exact ((ih others).cons r).trans List.perm_middle.symm
  | case5 l left r right first ih =>
    cases others : merge precedes left (r :: right) with
    | error e =>
      rw [others] at done
      cases done
    | ok rest =>
      rw [others] at done
      cases done
      exact (ih others).cons l

/-- **Sorting loses nothing and adds nothing**, whatever the items are. -/
theorem sort_perm {precedes : α → α → Except ε Bool} {items sorted : List α}
    (done : sort precedes items = .ok sorted) : sorted.Perm items := by
  fun_induction sort precedes items generalizing sorted with
  | case1 | case2 => cases done
  | case3 items many left first right second ih ih' =>
    have halves := (merge_perm done).trans ((ih first).append (ih' second))
    rwa [List.take_append_drop] at halves
  | case4 =>
    cases done
    exact .refl _

/-- Merging commutes with replacing every item by what it stands for. -/
theorem merge_map {precedes : α → α → Except ε Bool} (f : β → α) (left right : List β) :
    merge precedes (left.map f) (right.map f) =
      (merge (fun later earlier => precedes (f later) (f earlier)) left right).map
        (List.map f) := by
  fun_induction merge (fun later earlier => precedes (f later) (f earlier)) left right with
  | case1 right =>
    rw [List.map_nil, merge]
    rfl
  | case2 left some =>
    cases left with
    | nil => exact absurd rfl some
    | cons l left =>
      rw [List.map_nil, List.map_cons, merge]
      · rfl
      · exact List.cons_ne_nil _ _
  | case3 l left r right cause asked =>
    rw [List.map_cons, List.map_cons, merge, asked]
    rfl
  | case4 l left r right asked ih =>
    rw [List.map_cons, List.map_cons, merge, asked]
    show (merge precedes (f l :: left.map f) (right.map f)).map (f r :: ·) = _
    rw [← List.map_cons, ih]
    cases merge (fun later earlier => precedes (f later) (f earlier)) (l :: left) right <;> rfl
  | case5 l left r right asked ih =>
    rw [List.map_cons, List.map_cons, merge, asked]
    show (merge precedes (left.map f) (f r :: right.map f)).map (f l :: ·) = _
    rw [← List.map_cons, ih]
    cases merge (fun later earlier => precedes (f later) (f earlier)) left (r :: right) <;> rfl

/-- **Sorting commutes with replacing every item by what it stands for.** -/
theorem sort_map {precedes : α → α → Except ε Bool} (f : β → α) (items : List β) :
    sort precedes (items.map f) =
      (sort (fun later earlier => precedes (f later) (f earlier)) items).map (List.map f) := by
  fun_induction sort (fun later earlier => precedes (f later) (f earlier)) items with
  | case1 items many cause failed ih =>
    rw [sort, dif_pos (by rwa [List.length_map]), List.length_map, ← List.map_take, ih, failed]
    rfl
  | case2 items many left sorted cause failed ih ih' =>
    rw [sort, dif_pos (by rwa [List.length_map]), List.length_map, ← List.map_take,
      ← List.map_drop, ih, ih', sorted, failed]
    rfl
  | case3 items many left sorted right sorted' ih ih' =>
    rw [sort, dif_pos (by rwa [List.length_map]), List.length_map, ← List.map_take,
      ← List.map_drop, ih, ih', sorted, sorted']
    exact merge_map f left right
  | case4 items few =>
    rw [sort, dif_neg (by rwa [List.length_map])]
    rfl

end Sorting

namespace Store

/-- A later item must come before an earlier one: it is less, or greater in descending order. -/
def precedes (s : Store) (descending : Bool) (later earlier : Value) : Except Cause Bool :=
  (if descending then s.compare earlier later else s.compare later earlier).map (· == .lt)

/-- **Sorts values**, equal ones keeping their order in both directions. -/
def sort (s : Store) (descending : Bool) (items : List Value) : Except Cause (List Value) :=
  Sorting.sort (s.precedes descending) items

end Store

end CallConsole
