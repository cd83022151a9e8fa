/-
**What a traversal yields.**

The elements of a value are written down as a list, by recursion on the value and without a cursor.
What a cursor still has ahead of it is such a list too, and a step takes the first item off its
front; of a cursor at the start of a value, all elements are ahead:

* `Cursor.next_cases`: a step yields the first item ahead, and leaves the others;
* `Cursor.take_eq`, `Cursor.fold_eq`: what is taken, and what is done with each item, up to the end;
* `Store.cursor_elements`: a cursor at the start has the elements ahead;
* `Store.length?_elements`, `Store.truthy_elements`: the length and the truth of a value that can
  be traversed are those of its elements.
-/

import CallConsole.Proofs.Growth
import CallConsole.Proofs.RangeElements
import Mathlib.Data.List.Forall2

namespace CallConsole

/-! ### Rows and numbers -/

section Rows

variable {α : Type}

/-- The length of the shortest list, or nothing if there is no list. -/
def shortest (lists : List (List α)) : Nat := (lists.map List.length).min?.getD 0

/-- **Rows** of one item of each list, as many as the shortest list has. There are none of no
lists. -/
def rowsOf (lists : List (List α)) : List (List α) :=
  (List.range (shortest lists)).map fun k => lists.filterMap (·[k]?)

theorem length_rowsOf (lists : List (List α)) : (rowsOf lists).length = shortest lists := by
  rw [rowsOf, List.length_map, List.length_range]

theorem shortest_cons (items : List α) {rest : List (List α)} (nonempty : rest ≠ []) :
    shortest (items :: rest) = min items.length (shortest rest) := by
  obtain ⟨first, others, rfl⟩ := List.exists_cons_of_ne_nil nonempty
  rw [shortest, shortest, List.map_cons, List.min?_cons, List.map_cons, List.min?_cons]
  rfl

theorem getElem?_rowsOf (lists : List (List α)) (k : Nat) :
    (rowsOf lists)[k]? = if k < shortest lists then some (lists.filterMap (·[k]?)) else none := by
  rw [rowsOf, List.getElem?_map]
  split
  case isTrue inside => rw [List.getElem?_range inside, Option.map_some]
  case isFalse outside =>
    rw [List.getElem?_eq_none (by rw [List.length_range]; exact Nat.le_of_not_lt outside)]
    rfl

theorem rowsOf_singleton (items : List α) : rowsOf [items] = items.map ([·]) := by
  apply List.ext_getElem?
  intro k
  rw [getElem?_rowsOf, List.getElem?_map]
  show (if k < items.length then _ else _) = _
  split
  case isTrue inside =>
    rw [List.filterMap_cons, List.getElem?_eq_getElem inside]
    rfl
  case isFalse outside =>
    rw [List.getElem?_eq_none (Nat.le_of_not_lt outside)]
    rfl

/-- The items of one more list stand in front of the rows. -/
theorem rowsOf_cons (items : List α) {rest : List (List α)} (nonempty : rest ≠ []) :
    rowsOf (items :: rest) = List.zipWith (· :: ·) items (rowsOf rest) := by
  apply List.ext_getElem?
  intro k
  rw [getElem?_rowsOf, List.getElem?_zipWith, getElem?_rowsOf, shortest_cons items nonempty]
  by_cases inside : k < items.length
  · rw [List.getElem?_eq_getElem inside, List.filterMap_cons, List.getElem?_eq_getElem inside]
    by_cases within : k < shortest rest
    · rw [if_pos (Nat.lt_min.mpr ⟨inside, within⟩), if_pos within]
    · rw [if_neg fun both => within (Nat.lt_min.mp both).2, if_neg within]
  · rw [List.getElem?_eq_none (Nat.le_of_not_lt inside),
      if_neg fun both => inside (Nat.lt_min.mp both).1]

/-- There are no rows exactly if there are no lists or one of them is empty. -/
theorem rowsOf_eq_nil_iff {lists : List (List α)} :
    rowsOf lists = [] ↔ lists = [] ∨ [] ∈ lists := by
  induction lists with
  | nil => exact iff_of_true rfl (.inl rfl)
  | cons items rest ih =>
    rw [List.mem_cons]
    by_cases last : rest = []
    · cases last
      rw [rowsOf_singleton, List.map_eq_nil_iff]
      simp [eq_comm]
    · rw [rowsOf_cons items last, List.zipWith_eq_nil_iff, ih]
      simp [last, eq_comm]

theorem isEmpty_rowsOf (lists : List (List α)) :
    (rowsOf lists).isEmpty = (lists.isEmpty || lists.any List.isEmpty) := by
  rw [Bool.eq_iff_iff, Bool.or_eq_true, List.isEmpty_iff, List.isEmpty_iff, rowsOf_eq_nil_iff,
    List.any_eq_true]
  simp

/-- What stands in a row stands in one of the lists. -/
theorem exists_of_mem_rowsOf {lists : List (List α)} {row : List α} (member : row ∈ rowsOf lists)
    {item : α} (inside : item ∈ row) : ∃ items ∈ lists, item ∈ items := by
  obtain ⟨k, _, rfl⟩ := List.mem_map.mp member
  obtain ⟨items, there, found⟩ := List.mem_filterMap.mp inside
  exact ⟨items, there, List.mem_of_getElem? found⟩

end Rows

namespace Integer

/-- The integer that many steps further, or the largest one. -/
def advance (n : Integer) (count : Nat) : Integer :=
  Int64.ofInt (min (n.toInt + count) (2 ^ 63 - 1))

theorem advance_zero (n : Integer) : n.advance 0 = n := by
  have fits := n.fits_toInt
  unfold Fits at fits
  have small : min (n.toInt + (0 : Nat)) (2 ^ 63 - 1) = n.toInt := by omega
  rw [advance, small, Int64.ofInt_toInt]

/-- After the successor come the integers that come after the next one. -/
theorem advance_successor (n : Integer) (count : Nat) :
    n.successor.advance count = n.advance (count + 1) := by
  have fits := n.fits_toInt
  unfold advance successor
  by_cases last : Fits (n.toInt + 1)
  · obtain ⟨word, found⟩ := exists_ofInt?_iff.mpr last
    have value := ofInt?_eq_some_iff.mp found
    rw [found, Option.getD_some, value]
    congr 2
    omega
  · rw [ofInt?_eq_none_iff.mpr last, Option.getD_none]
    unfold Fits at fits last
    congr 1
    omega

end Integer

/-- Items with consecutive numbers; the largest integer is the number of all that come after it. -/
def numberedFrom (start : Integer) (items : List Item) : List Item :=
  items.mapIdx fun k item => .numbered (start.advance k) item

theorem numberedFrom_cons (start : Integer) (item : Item) (rest : List Item) :
    numberedFrom start (item :: rest) =
      .numbered start item :: numberedFrom start.successor rest := by
  unfold numberedFrom
  rw [List.mapIdx_cons, Integer.advance_zero]
  simp only [Integer.advance_successor]

theorem isEmpty_numberedFrom (start : Integer) (items : List Item) :
    (numberedFrom start items).isEmpty = items.isEmpty := by
  cases items with
  | nil => rfl
  | cons item rest =>
    rw [numberedFrom_cons]
    rfl

/-! ### Elements -/

namespace Store

mutual

/-- **The elements of a value**, in the order of a traversal. -/
def elements (s : Store) : Value → List Item
  | .list place => (s.items place).toList.map .object
  | .dict place => (s.contents place).keys.map .object
  | .str _ text => text.map .char
  | .tuple _ items | .reversed _ items => items.map .object
  | .range _ r => r.integers.map .int
  | .reversedRange _ r => r.integers.reverse.map .int
  | .enumerate _ source start => numberedFrom start (elements s source)
  | .zip _ sources => (rowsOf (elementsAll s sources)).map .row
  | .null _ | .bool .. | .int .. | .float .. => []

/-- The elements of each value. -/
def elementsAll (s : Store) : List Value → List (List Item)
  | [] => []
  | v :: rest => elements s v :: elementsAll s rest

end

end Store

theorem Store.elementsAll_eq_map (s : Store) (vs : List Value) :
    s.elementsAll vs = vs.map s.elements := by
  induction vs with
  | nil => rfl
  | cons v rest ih => rw [elementsAll, ih, List.map_cons]

/-- Each object is made of its item. -/
theorem Item.forall₂_createAll (s : Store) (items : List Item) :
    List.Forall₂ (fun item v => ∃ s', v = (item.create s').1) items (createAll s items).1 := by
  induction items generalizing s with
  | nil => exact .nil
  | cons item rest ih => exact .cons ⟨s, rfl⟩ (ih _)

/-- Objects that are there need not be made. -/
theorem Item.createAll_objects (s : Store) (vs : List Value) :
    Item.createAll s (vs.map .object) = (vs, s) := by
  induction vs with
  | nil => rfl
  | cons v rest ih => simp only [List.map_cons, Item.createAll, Item.create, ih]

/-! ### What is ahead of a cursor -/

namespace Cursor

mutual

/-- **The items ahead of a cursor**, as long as nothing changes. -/
def ahead (s : Store) : Cursor → List Item
  | .live place index => ((s.items place).toList.drop index).map .object
  | .fixed items => items.map .object
  | .chars text => text.map .char
  | .forward r index => (r.integers.drop index).map .int
  | .backward r remaining => ((List.range remaining).map r.element).reverse.map .int
  | .numbered source index => numberedFrom index (ahead s source)
  | .rows sources => (rowsOf (aheadAll s sources)).map .row

/-- The items ahead of each cursor. -/
def aheadAll (s : Store) : List Cursor → List (List Item)
  | [] => []
  | source :: rest => ahead s source :: aheadAll s rest

end

theorem aheadAll_eq_map (s : Store) (cs : List Cursor) : aheadAll s cs = cs.map (ahead s) := by
  induction cs with
  | nil => rfl
  | cons c rest ih => rw [aheadAll, ih, List.map_cons]

theorem aheadAll_ne_nil (s : Store) {sources : List Cursor} (nonempty : sources ≠ []) :
    aheadAll s sources ≠ [] := by
  rw [aheadAll_eq_map]
  exact mt List.map_eq_nil_iff.mp nonempty

/-- A step of rows is one of each source, if there is a source. -/
theorem next_rows (s : Store) {sources : List Cursor} (nonempty : sources ≠ []) :
    next s (.rows sources) = match nextAll s sources with
      | (some items, moved) => (some (.row items), .rows moved)
      | (none, moved) => (none, .rows moved) := by
  obtain ⟨source, rest, rfl⟩ := List.exists_cons_of_ne_nil nonempty
  rfl

/-- No cursor is lost in a step. -/
theorem nextAll_ne_nil (s : Store) {sources : List Cursor} (nonempty : sources ≠ []) :
    (nextAll s sources).2 ≠ [] := by
  obtain ⟨source, rest, rfl⟩ := List.exists_cons_of_ne_nil nonempty
  rw [nextAll]
  split
  · exact List.cons_ne_nil _ _
  · split <;> exact List.cons_ne_nil _ _

mutual

/-- **A step yields the first item ahead**, and leaves the others. Where none is ahead, none is
ahead after the step either, though sources of rows may have moved. -/
theorem next_cases (s : Store) (cursor : Cursor) :
    (∃ moved, cursor.next s = (none, moved) ∧ cursor.ahead s = [] ∧ moved.ahead s = []) ∨
      ∃ item moved, cursor.next s = (some item, moved) ∧
        cursor.ahead s = item :: moved.ahead s := by
  cases cursor with
  | live place index =>
    cases found : (s.items place)[index]? with
    | none =>
      have short : (s.items place).toList.drop index = [] :=
        List.drop_eq_nil_of_le (Array.getElem?_eq_none_iff.mp found)
      have nothing : ahead s (.live place index) = [] := by rw [ahead, short, List.map_nil]
      exact .inl ⟨.live place index, by rw [next, found], nothing, nothing⟩
    | some v =>
      obtain ⟨inside, rfl⟩ := Array.getElem?_eq_some_iff.mp found
      refine .inr ⟨.object (s.items place)[index], .live place (index + 1), by rw [next, found], ?_⟩
      rw [ahead, List.drop_eq_getElem_cons inside]
      rfl
  | fixed items =>
    cases items with
    | nil => exact .inl ⟨.fixed [], rfl, rfl, rfl⟩
    | cons v rest => exact .inr ⟨.object v, .fixed rest, rfl, rfl⟩
  | chars text =>
    cases text with
    | nil => exact .inl ⟨.chars [], rfl, rfl, rfl⟩
    | cons c rest => exact .inr ⟨.char c, .chars rest, rfl, rfl⟩
  | forward r index =>
    by_cases inside : index < r.length
    · refine .inr ⟨.int (r.element index), .forward r (index + 1), if_pos inside, ?_⟩
      have there := Range.getElem?_integers inside
      obtain ⟨within, same⟩ := List.getElem?_eq_some_iff.mp there
      rw [ahead, List.drop_eq_getElem_cons within, same]
      rfl
    · have short : r.integers.drop index = [] :=
        List.drop_eq_nil_of_le (by rw [Range.length_integers]; exact Nat.le_of_not_lt inside)
      have nothing : ahead s (.forward r index) = [] := by rw [ahead, short, List.map_nil]
      exact .inl ⟨.forward r index, if_neg inside, nothing, nothing⟩
  | backward r remaining =>
    cases remaining with
    | zero => exact .inl ⟨.backward r 0, rfl, rfl, rfl⟩
    | succ remaining =>
      refine .inr ⟨.int (r.element remaining), .backward r remaining, rfl, ?_⟩
      rw [ahead, List.range_succ, List.map_append, List.reverse_append]
      rfl
  | numbered source index =>
    rcases next_cases s source with ⟨moved, stepped, nothing, left⟩ | ⟨item, moved, stepped, items⟩
    · refine .inl ⟨.numbered moved index, by rw [next, stepped], ?_, ?_⟩
      · rw [ahead, nothing]
        rfl
      · rw [ahead, left]
        rfl
    · refine .inr ⟨.numbered index item, .numbered moved index.successor, ?_, ?_⟩
      · rw [next, stepped]
      · rw [ahead, items, numberedFrom_cons, ahead]
  | rows sources =>
    by_cases empty : sources = []
    · cases empty
      exact .inl ⟨.rows [], rfl, rfl, rfl⟩
    · rcases nextAll_cases s sources empty with
        ⟨moved, stepped, nothing, left⟩ | ⟨items, moved, stepped, rows⟩
      · refine .inl ⟨.rows moved, by rw [next_rows s empty, stepped], ?_, ?_⟩
        · rw [ahead, nothing, List.map_nil]
        · rw [ahead, left, List.map_nil]
      · refine .inr ⟨.row items, .rows moved, by rw [next_rows s empty, stepped], ?_⟩
        rw [ahead, rows, ahead, List.map_cons]

/-- A step of each cursor yields the first row ahead, and leaves the others. -/
theorem nextAll_cases (s : Store) (sources : List Cursor) (nonempty : sources ≠ []) :
    (∃ moved, nextAll s sources = (none, moved) ∧ rowsOf (aheadAll s sources) = [] ∧
      rowsOf (aheadAll s moved) = []) ∨
    ∃ items moved, nextAll s sources = (some items, moved) ∧
      rowsOf (aheadAll s sources) = items :: rowsOf (aheadAll s moved) := by
  cases sources with
  | nil => exact absurd rfl nonempty
  | cons source rest =>
    by_cases last : rest = []
    · cases last
      rcases next_cases s source with
        ⟨moved, stepped, nothing, left⟩ | ⟨item, moved, stepped, items⟩
      · refine .inl ⟨[moved], by rw [nextAll, stepped], ?_, ?_⟩
        · rw [aheadAll, nothing]
          rfl
        · rw [aheadAll, left]
          rfl
      · refine .inr ⟨[item], [moved], by rw [nextAll, stepped, nextAll], ?_⟩
        simp only [aheadAll, items, rowsOf_singleton, List.map_cons]
    · have behind := aheadAll_ne_nil s last
      rcases next_cases s source with
        ⟨moved, stepped, nothing, left⟩ | ⟨item, moved, stepped, items⟩
      · refine .inl ⟨moved :: rest, by rw [nextAll, stepped], ?_, ?_⟩
        · rw [aheadAll, rowsOf_cons _ behind, nothing, List.zipWith_nil_left]
        · rw [aheadAll, rowsOf_cons _ behind, left, List.zipWith_nil_left]
      · have others := aheadAll_ne_nil s (nextAll_ne_nil s last)
        rcases nextAll_cases s rest last with
          ⟨moved', stepped', nothing, left⟩ | ⟨row, moved', stepped', rows⟩
        · rw [stepped'] at others
          refine .inl ⟨moved :: moved', by rw [nextAll, stepped, stepped'], ?_, ?_⟩
          · rw [aheadAll, rowsOf_cons _ behind, nothing, List.zipWith_nil_right]
          · rw [aheadAll, rowsOf_cons _ others, left, List.zipWith_nil_right]
        · rw [stepped'] at others
          refine .inr ⟨item :: row, moved :: moved', by rw [nextAll, stepped, stepped'], ?_⟩
          rw [aheadAll, rowsOf_cons _ behind, items, rows, aheadAll, rowsOf_cons _ others,
            List.zipWith_cons_cons]

end

variable {s : Store} {c moved : Cursor}

/-- The item that a step yields was the first one ahead. -/
theorem ahead_of_yields {item : Item} (stepped : c.next s = (some item, moved)) :
    c.ahead s = item :: moved.ahead s := by
  rcases next_cases s c with ⟨other, none, _⟩ | ⟨first, other, some, items⟩
  · rw [none] at stepped
    cases stepped
  · rw [some] at stepped
    cases stepped
    exact items

/-- Where a step yields nothing, nothing was ahead, and nothing is. -/
theorem ahead_of_exhausts (stepped : c.next s = (none, moved)) :
    c.ahead s = [] ∧ moved.ahead s = [] := by
  rcases next_cases s c with ⟨other, none, nothing, left⟩ | ⟨first, other, some, _⟩
  · rw [none] at stepped
    cases stepped
    exact ⟨nothing, left⟩
  · rw [some] at stepped
    cases stepped

/-- What a step yields is the first item ahead, if there is one. -/
theorem next_eq_head? (s : Store) (c : Cursor) : (c.next s).1 = (c.ahead s).head? := by
  rcases next_cases s c with ⟨moved, none, nothing, _⟩ | ⟨item, moved, some, items⟩
  · rw [none, nothing]
    rfl
  · rw [some, items]
    rfl

/-- The items taken are the first ones ahead. -/
theorem take_eq (s : Store) (count : Nat) (c : Cursor) :
    c.take s count = (c.ahead s).take count := by
  induction count generalizing c with
  | zero => rfl
  | succ count ih =>
    rcases next_cases s c with ⟨moved, stepped, nothing, _⟩ | ⟨item, moved, stepped, items⟩
    · rw [take, stepped, nothing]
      rfl
    · rw [take, stepped, items, List.take_succ_cons, ← ih]

mutual

/-- **As many steps remain as there are items ahead.** -/
theorem length_ahead (s : Store) (c : Cursor) : (c.ahead s).length = c.remaining s := by
  cases c with
  | live place index =>
    rw [ahead, remaining, List.length_map, List.length_drop, Array.length_toList]
  | fixed items => rw [ahead, remaining, List.length_map]
  | chars text => rw [ahead, remaining, List.length_map]
  | forward r index =>
    rw [ahead, remaining, List.length_map, List.length_drop, Range.length_integers]
  | backward r left =>
    rw [ahead, remaining, List.length_map, List.length_reverse, List.length_map, List.length_range]
  | numbered source index =>
    rw [ahead, remaining, numberedFrom, List.length_mapIdx, length_ahead s source]
  | rows sources =>
    cases sources with
    | nil => rfl
    | cons source rest =>
      rw [ahead, remaining, List.length_map, length_rowsOf, shortest, aheadAll, List.map_cons,
        List.min?_cons', Option.getD_some, length_ahead s source, foldl_length_ahead s _ rest]

/-- The least of a bound and the numbers of items ahead. -/
theorem foldl_length_ahead (s : Store) (bound : Nat) (cs : List Cursor) :
    ((aheadAll s cs).map List.length).foldl min bound = remainingLeast s bound cs := by
  cases cs with
  | nil => rfl
  | cons c rest =>
    rw [aheadAll, List.map_cons, List.foldl_cons, length_ahead s c, remainingLeast,
      foldl_length_ahead s _ rest]

end

/-- **A fold over a traversal is one over the items ahead.** -/
theorem fold_eq {α : Type} (s : Store) (step : α → Item → Action α) {count : Nat} {c : Cursor}
    (all : (c.ahead s).length ≤ count) (total : α) :
    c.fold s step count total = (c.ahead s).foldlM step total := by
  induction count generalizing c total with
  | zero =>
    rw [List.length_eq_zero_iff.mp (Nat.le_zero.mp all)]
    rfl
  | succ count ih =>
    rcases next_cases s c with ⟨moved, stepped, nothing, _⟩ | ⟨item, moved, stepped, items⟩
    · rw [fold, stepped, nothing]
      rfl
    · rw [items, List.length_cons] at all
      rw [fold, stepped, items, List.foldlM_cons]
      exact bind_congr fun total => ih (Nat.le_of_succ_le_succ all) total

/-- All items from the cursor on are those ahead. -/
theorem drain_eq (s : Store) (c : Cursor) : c.drain s = c.ahead s := by
  rw [drain, take_eq, ← length_ahead, List.take_length]

end Cursor

/-! ### Values that can be traversed -/

namespace Store

variable {s : Store}

/-- A cursor at the start of a numbered value has one of the source inside. -/
theorem exists_of_cursor_enumerate {id : Nat} {source : Value} {start : Integer} {c : Cursor}
    (opened : s.cursor (.enumerate id source start) = .ok c) :
    ∃ inner, s.cursor source = .ok inner ∧ c = .numbered inner start := by
  rw [cursor] at opened
  cases inner : s.cursor source with
  | error cause =>
    rw [inner] at opened
    cases opened
  | ok first =>
    rw [inner] at opened
    cases opened
    exact ⟨first, rfl, rfl⟩

/-- A cursor at the start of rows has one of each source inside. -/
theorem exists_of_cursor_zip {id : Nat} {sources : List Value} {c : Cursor}
    (opened : s.cursor (.zip id sources) = .ok c) :
    ∃ inner, s.cursors sources = .ok inner ∧ c = .rows inner := by
  rw [cursor] at opened
  cases inner : s.cursors sources with
  | error cause =>
    rw [inner] at opened
    cases opened
  | ok all =>
    rw [inner] at opened
    cases opened
    exact ⟨all, rfl, rfl⟩

/-- Cursors at the start of several values are one of the first and others of the rest. -/
theorem exists_of_cursors_cons {v : Value} {rest : List Value} {cs : List Cursor}
    (opened : s.cursors (v :: rest) = .ok cs) :
    ∃ first others, s.cursor v = .ok first ∧ s.cursors rest = .ok others ∧
      cs = first :: others := by
  rw [cursors] at opened
  split at opened
  case h_1 => cases opened
  case h_2 first found =>
    cases behind : s.cursors rest with
    | error cause =>
      rw [behind] at opened
      cases opened
    | ok others =>
      rw [behind] at opened
      cases opened
      exact ⟨first, others, found, rfl, rfl⟩

mutual

/-- **A cursor at the start of a value has its elements ahead.** -/
theorem cursor_elements (v : Value) {c : Cursor} (opened : s.cursor v = .ok c) :
    c.ahead s = s.elements v := by
  cases v with
  | null | bool | int | float => cases opened
  | str | list | dict | tuple | range | reversed =>
    cases opened
    rfl
  | reversedRange id r =>
    cases opened
    rw [Cursor.ahead, elements, Range.integers_eq]
  | enumerate id source start =>
    obtain ⟨inner, within, rfl⟩ := exists_of_cursor_enumerate opened
    rw [Cursor.ahead, elements, cursor_elements source within]
  | zip id sources =>
    obtain ⟨inner, within, rfl⟩ := exists_of_cursor_zip opened
    rw [Cursor.ahead, elements, cursors_elements sources within]

theorem cursors_elements (vs : List Value) {cs : List Cursor} (opened : s.cursors vs = .ok cs) :
    Cursor.aheadAll s cs = s.elementsAll vs := by
  cases vs with
  | nil =>
    cases opened
    rfl
  | cons v rest =>
    obtain ⟨first, others, found, behind, rfl⟩ := exists_of_cursors_cons opened
    rw [Cursor.aheadAll, elementsAll, cursor_elements v found, cursors_elements rest behind]

end

mutual

/-- **The length of a value is the number of its elements.** -/
theorem length?_elements (v : Value) {c : Cursor} (opened : s.cursor v = .ok c) :
    s.length? v = some (s.elements v).length := by
  cases v with
  | null | bool | int | float => cases opened
  | str | tuple | reversed => rw [length?, elements, List.length_map]
  | list place =>
    rw [length?, elements, List.length_map]
    rfl
  | dict place =>
    rw [length?, elements, List.length_map, Dict.keys, List.length_map]
    rfl
  | range id r => rw [length?, elements, List.length_map, Range.length_integers]
  | reversedRange id r =>
    rw [length?, elements, List.length_map, List.length_reverse, Range.length_integers]
  | enumerate id source start =>
    obtain ⟨inner, within, rfl⟩ := exists_of_cursor_enumerate opened
    rw [length?, elements, length?_elements source within, numberedFrom, List.length_mapIdx]
  | zip id sources =>
    obtain ⟨inner, within, rfl⟩ := exists_of_cursor_zip opened
    rw [elements, List.length_map, length_rowsOf]
    cases sources with
    | nil => rfl
    | cons v rest =>
      obtain ⟨first, others, found, behind, rfl⟩ := exists_of_cursors_cons within
      rw [length?, length?_elements v found, Option.bind_some, leastLength?_elements rest behind,
        shortest, elementsAll, List.map_cons, List.min?_cons']
      rfl

theorem leastLength?_elements (vs : List Value) {cs : List Cursor} (opened : s.cursors vs = .ok cs)
    {bound : Nat} :
    s.leastLength? bound vs = some (((s.elementsAll vs).map List.length).foldl min bound) := by
  cases vs with
  | nil => rfl
  | cons v rest =>
    obtain ⟨first, others, found, behind, rfl⟩ := exists_of_cursors_cons opened
    rw [leastLength?, length?_elements v found, Option.bind_some,
      leastLength?_elements rest behind, elementsAll, List.map_cons, List.foldl_cons]

end

/-- A list has the length zero exactly if it is empty. -/
theorem decide_length {α : Type} (items : List α) :
    decide (some items.length = some 0) = items.isEmpty := by
  cases items <;> rfl

mutual

/-- **A value is found empty exactly if it has no elements.** -/
theorem isEmpty_elements (v : Value) {c : Cursor} (opened : s.cursor v = .ok c) :
    s.isEmpty v = (s.elements v).isEmpty := by
  cases v with
  | null | bool | int | float => cases opened
  | str id text => rw [isEmpty, elements, List.isEmpty_map]
  | list | dict | tuple | range | reversed | reversedRange =>
    rw [isEmpty, length?_elements _ opened, decide_length]
    all_goals exact nofun
  | enumerate id source start =>
    obtain ⟨inner, within, rfl⟩ := exists_of_cursor_enumerate opened
    rw [isEmpty, elements, isEmpty_elements source within, isEmpty_numberedFrom]
  | zip id sources =>
    obtain ⟨inner, within, rfl⟩ := exists_of_cursor_zip opened
    rw [isEmpty, elements, anyEmpty_elements sources within, List.isEmpty_map, isEmpty_rowsOf]
    cases sources <;> rfl

theorem anyEmpty_elements (vs : List Value) {cs : List Cursor} (opened : s.cursors vs = .ok cs) :
    s.anyEmpty vs = (s.elementsAll vs).any List.isEmpty := by
  cases vs with
  | nil => rfl
  | cons v rest =>
    obtain ⟨first, others, found, behind, rfl⟩ := exists_of_cursors_cons opened
    rw [anyEmpty, isEmpty_elements v found, anyEmpty_elements rest behind, elementsAll,
      List.any_cons]

end

/-- **A value that can be traversed counts as true exactly if it has an element.** -/
theorem truthy_elements {v : Value} {c : Cursor} (opened : s.cursor v = .ok c) :
    s.truthy v = !(s.elements v).isEmpty := by
  have empty := isEmpty_elements v opened
  cases v with
  | null | bool | int | float => cases opened
  | str id text => rw [truthy, elements, List.isEmpty_map]
  | list place => rw [truthy, elements, List.isEmpty_map, Array.isEmpty_toList]
  | dict place =>
    rw [truthy, elements, List.isEmpty_map, Dict.keys, List.isEmpty_map, Dict.length]
    cases (s.contents place).entries <;> rfl
  | tuple id items => rw [truthy, elements, List.isEmpty_map]
  | range | reversed | reversedRange | enumerate | zip =>
    rw [truthy, empty]
    all_goals exact nofun

end Store

end CallConsole
