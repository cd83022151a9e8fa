/-
**Emptiness, equality, order and sorting in machine operations.**

Whether a range is empty or equal to another is seen by its length, a comparison counts how deep it
is, and a sort cuts sequences and adds up the lengths of the parts:

* `truthy_eq`, `equal_eq`, `compare_eq`: none of these goes wrong, for any values;
* `sort_eq`: a sort does not go wrong if the number of its items is a word.
-/

import CallConsole.Proofs.Checked.Ranges
import CallConsole.Cursor
import CallConsole.Sorting

namespace CallConsole

namespace Checked

variable (s : Store)

/-! ### Emptiness -/

mutual

/-- The value has no elements. -/
def isEmpty (s : Store) : Value → Checked Bool
  | .range _ r | .reversedRange _ r => do
    let length ← rangeLength r
    .ok (length = 0)
  | .enumerate _ source _ => isEmpty s source
  | .zip _ sources => if sources.isEmpty then .ok true else anyEmpty s sources
  | v => .ok (s.isEmpty v)

/-- Some of the values has no elements. Values after the first such one are not looked at. -/
def anyEmpty (s : Store) : List Value → Checked Bool
  | [] => .ok false
  | v :: rest => do
    if ← isEmpty s v then .ok true else anyEmpty s rest

end

/-- The value counts as true. -/
def truthy (s : Store) : Value → Checked Bool
  | .range id r => (!·) <$> isEmpty s (.range id r)
  | .reversedRange id r => (!·) <$> isEmpty s (.reversedRange id r)
  | .enumerate id source start => (!·) <$> isEmpty s (.enumerate id source start)
  | .zip id sources => (!·) <$> isEmpty s (.zip id sources)
  | v => .ok (s.truthy v)

mutual

/-- **Emptiness is found out without a fault.** -/
theorem isEmpty_eq (v : Value) : isEmpty s v = .ok (s.isEmpty v) := by
  cases v with
  | range id r | reversedRange id r =>
    rw [isEmpty, rangeLength_eq, ok_bind, Store.isEmpty, Store.length?]
    · simp only [Option.some.injEq]
    all_goals nofun
  | enumerate id source start => rw [isEmpty, Store.isEmpty, isEmpty_eq source]
  | zip id sources =>
    rw [isEmpty, Store.isEmpty, anyEmpty_eq sources]
    cases sources.isEmpty <;> rfl
  | _ => rw [isEmpty] <;> nofun

theorem anyEmpty_eq (vs : List Value) : anyEmpty s vs = .ok (s.anyEmpty vs) := by
  cases vs with
  | nil => rfl
  | cons v rest =>
    rw [anyEmpty, Store.anyEmpty, isEmpty_eq v, ok_bind, anyEmpty_eq rest]
    cases s.isEmpty v <;> rfl

end

theorem truthy_eq (v : Value) : truthy s v = .ok (s.truthy v) := by
  cases v with
  | range | reversedRange | enumerate | zip =>
    rw [truthy, isEmpty_eq]
    rfl
  | _ => rfl

/-! ### Equality -/

/-- Two ranges run through the same integers. -/
def sameElements (first second : Range) : Checked Bool := do
  let length ← rangeLength first
  let other ← rangeLength second
  .ok (length = other &&
    (length = 0 || (first.start = second.start && (length = 1 || first.step = second.step))))

mutual

/-- Equality of two values inside the given pairs of containers. -/
def equalInside (s : Store) (active : List ContainerPair) (left right : Value) : Checked Bool :=
  match left, right with
  | .tuple _ xs, .tuple _ ys => equalItems s active xs ys
  | .list i, .list j =>
    if i = j ∨ .lists i j ∈ active then .ok true
    else if _inside : i < s.lists.size ∧ j < s.lists.size then
      equalItems s (.lists i j :: active) (s.items i).toList (s.items j).toList
    else .ok ((s.items i).isEmpty && (s.items j).isEmpty)
  | .dict i, .dict j =>
    if i = j ∨ .dicts i j ∈ active then .ok true
    else if _inside : i < s.dicts.size ∧ j < s.dicts.size then
      if (s.contents i).length = (s.contents j).length then
        equalEntries s (.dicts i j :: active) (s.contents i).entries (s.contents j)
      else .ok false
    else .ok ((s.contents i).entries.isEmpty && (s.contents j).entries.isEmpty)
  | .range _ a, .range _ b => sameElements a b
  | _, _ => .ok (s.equalInside active left right)
termination_by (outside s.containerPairs active, sizeOf left)
decreasing_by
  · exact Prod.Lex.right _ (by simp +arith)
  · exact Prod.Lex.left _ _ (outside_cons_lt
      (Store.mem_containerPairs_lists _inside.1 _inside.2) fun member => ‹¬ (_ ∨ _)› (.inr member))
  · exact Prod.Lex.left _ _ (outside_cons_lt
      (Store.mem_containerPairs_dicts _inside.1 _inside.2) fun member => ‹¬ (_ ∨ _)› (.inr member))

/-- Two sequences have the same length and equal items. -/
def equalItems (s : Store) (active : List ContainerPair) :
    List Value → List Value → Checked Bool
  | [], [] => .ok true
  | x :: xs, y :: ys => do
    if ← equalInside s active x y then equalItems s active xs ys else .ok false
  | _, _ => .ok false
termination_by xs => (outside s.containerPairs active, sizeOf xs)
decreasing_by
  all_goals exact Prod.Lex.right _ (by simp +arith)

/-- Every entry has an equal value under the same slot of another dict. -/
def equalEntries (s : Store) (active : List ContainerPair) : List Entry → Dict → Checked Bool
  | [], _ => .ok true
  | e :: rest, other =>
    match other.valueAt? e.slot with
    | some theirs => do
      if ← equalInside s active e.value theirs then equalEntries s active rest other
      else .ok false
    | none => .ok false
termination_by es => (outside s.containerPairs active, sizeOf es)
decreasing_by
  · exact Prod.Lex.right _ (by cases e; simp +arith)
  · exact Prod.Lex.right _ (by simp +arith)

end

/-- Equality of values. -/
def equal (s : Store) (left right : Value) : Checked Bool := equalInside s [] left right

theorem sameElements_eq (first second : Range) :
    sameElements first second = .ok (first.sameElements second) := by
  simp only [sameElements, rangeLength_eq, ok_bind, Range.sameElements]

mutual

/-- **Equality is found out without a fault**, inside any pairs of containers. -/
theorem equalInside_eq (active : List ContainerPair) (left right : Value) :
    equalInside s active left right = .ok (s.equalInside active left right) := by
  cases left with
  | tuple id xs =>
    cases right with
    | tuple id' ys =>
      rw [equalInside.eq_def, Store.equalInside.eq_def]
      exact equalItems_eq active xs ys
    | _ => rw [equalInside.eq_def]
  | list i =>
    cases right with
    | list j =>
      rw [equalInside.eq_def, Store.equalInside.eq_def]
      simp only [Number.of?]
      by_cases known : i = j ∨ .lists i j ∈ active
      · rw [if_pos known, if_pos known]
      · rw [if_neg known, if_neg known]
        by_cases inside : i < s.lists.size ∧ j < s.lists.size
        · rw [dif_pos inside, dif_pos inside]
          exact equalItems_eq (.lists i j :: active) _ _
        · rw [dif_neg inside, dif_neg inside]
    | _ => rw [equalInside.eq_def]
  | dict i =>
    cases right with
    | dict j =>
      rw [equalInside.eq_def, Store.equalInside.eq_def]
      simp only [Number.of?]
      by_cases known : i = j ∨ .dicts i j ∈ active
      · rw [if_pos known, if_pos known]
      · rw [if_neg known, if_neg known]
        by_cases inside : i < s.dicts.size ∧ j < s.dicts.size
        · rw [dif_pos inside, dif_pos inside, equalEntries_eq (.dicts i j :: active) _ _]
          by_cases lengths : (s.contents i).length = (s.contents j).length
          · simp only [lengths, if_true, decide_true, Bool.true_and]
          · simp only [lengths, if_false, decide_false, Bool.false_and]
        · rw [dif_neg inside, dif_neg inside]
    | _ => rw [equalInside.eq_def]
  | range id a =>
    cases right with
    | range id' b =>
      rw [equalInside.eq_def, Store.equalInside.eq_def]
      exact sameElements_eq a b
    | _ => rw [equalInside.eq_def]
  | _ => rw [equalInside.eq_def]
termination_by (outside s.containerPairs active, sizeOf left)
decreasing_by
  · exact Prod.Lex.left _ _ (outside_cons_lt
      (Store.mem_containerPairs_lists inside.1 inside.2) fun member => known (.inr member))
  · exact Prod.Lex.left _ _ (outside_cons_lt
      (Store.mem_containerPairs_dicts inside.1 inside.2) fun member => known (.inr member))
  · exact Prod.Lex.right _ (by simp +arith)

theorem equalItems_eq (active : List ContainerPair) (xs ys : List Value) :
    equalItems s active xs ys = .ok (s.equalItems active xs ys) := by
  cases xs with
  | nil => cases ys <;> rw [equalItems, Store.equalItems] <;> nofun
  | cons x xs =>
    cases ys with
    | nil => rw [equalItems, Store.equalItems] <;> nofun
    | cons y ys =>
      rw [equalItems, Store.equalItems, equalInside_eq active x y, ok_bind,
        equalItems_eq active xs ys]
      cases s.equalInside active x y <;> rfl
termination_by (outside s.containerPairs active, sizeOf xs)
decreasing_by
  all_goals exact Prod.Lex.right _ (by simp +arith)

theorem equalEntries_eq (active : List ContainerPair) (entries : List Entry) (other : Dict) :
    equalEntries s active entries other = .ok (s.equalEntries active entries other) := by
  cases entries with
  | nil => rw [equalEntries, Store.equalEntries]
  | cons e rest =>
    rw [equalEntries, Store.equalEntries]
    cases other.valueAt? e.slot with
    | none => rfl
    | some theirs =>
      simp only [equalInside_eq active e.value theirs, ok_bind, equalEntries_eq active rest other]
      cases s.equalInside active e.value theirs <;> rfl
termination_by (outside s.containerPairs active, sizeOf entries)
decreasing_by
  · exact Prod.Lex.right _ (by cases e; simp +arith)
  · exact Prod.Lex.right _ (by simp +arith)

end

/-- **Comparing for equality does not go wrong.** -/
theorem equal_eq (left right : Value) : equal s left right = .ok (s.equal left right) :=
  equalInside_eq s [] left right

/-! ### Order -/

/-- The order of two values, with the order of two sequences of items given. -/
def compareWith (s : Store)
    (items : List Value → List Value → Checked (Except Cause Ordering)) (left right : Value) :
    Checked (Except Cause Ordering) :=
  match Number.of? left, Number.of? right with
  | some a, some b => .ok (.ok ((a.order? b).getD .eq))
  | _, _ =>
    match left, right with
    | .str _ a, .str _ b => .ok (.ok (textOrder a b))
    | .list i, .list j => items (s.items i).toList (s.items j).toList
    | .tuple _ xs, .tuple _ ys => items xs ys
    | _, _ => .ok (.error (.incomparable left.type right.type))

/-- The order of two sequences: that of their first items that are neither equal nor of the same
rank, or else that of their lengths. -/
def compareItems (equal : Value → Value → Checked Bool)
    (order : Value → Value → Checked (Except Cause Ordering)) :
    List Value → List Value → Checked (Except Cause Ordering)
  | x :: xs, y :: ys => do
    if ← equal x y then compareItems equal order xs ys
    else andThen (order x y) fun decided =>
      if decided = .eq then compareItems equal order xs ys else .ok (.ok decided)
  | xs, ys => .ok (.ok (Ord.compare xs.length ys.length))

/-- The order of two sequences at a depth, with the order of two values at a depth given. -/
def compareSequences (s : Store)
    (order : Nat → Value → Value → Checked (Except Cause Ordering)) (depth : Nat)
    (xs ys : List Value) : Checked (Except Cause Ordering) :=
  if Store.depthLimit ≤ depth then .ok (.error .comparisonTooDeep)
  else do
    let below ← countUp depth
    compareItems (equal s) (order below) xs ys

/-- The order of two values at a depth, in so many calls inside one another. -/
def compareFrom (s : Store) : Nat → Nat → Value → Value → Checked (Except Cause Ordering)
  | 0, _ => fun _ _ => .error .unfinished
  | calls + 1, depth => compareWith s (compareSequences s (compareFrom s calls) depth)

/-- The order of two values. The limit is met only by sequences, so there is one more call than
depths below the limit. -/
def compare (s : Store) (left right : Value) : Checked (Except Cause Ordering) :=
  compareFrom s (Store.depthLimit + 1) 0 left right

theorem compareWith_eq {items : List Value → List Value → Checked (Except Cause Ordering)}
    {items' : List Value → List Value → Except Cause Ordering}
    (same : ∀ xs ys, items xs ys = .ok (items' xs ys)) (left right : Value) :
    compareWith s items left right = .ok (s.compareWith items' left right) := by
  cases left with
  | list | tuple => cases right <;> first | exact same _ _ | rfl
  | bool | int | float | str => cases right <;> rfl
  | _ => rfl

theorem compareItems_eq {order : Value → Value → Checked (Except Cause Ordering)}
    {order' : Value → Value → Except Cause Ordering}
    (same : ∀ x y, order x y = .ok (order' x y)) (xs ys : List Value) :
    compareItems (equal s) order xs ys = .ok (Store.compareItems s.equal order' xs ys) := by
  induction xs generalizing ys with
  | nil => rw [compareItems, Store.compareItems] <;> nofun
  | cons x xs ih =>
    cases ys with
    | nil => rw [compareItems, Store.compareItems] <;> nofun
    | cons y ys =>
      rw [compareItems, Store.compareItems, equal_eq, ok_bind, ih, same]
      cases s.equal x y with
      | true => rfl
      | false =>
        cases order' x y with
        | error cause => rfl
        | ok decided => cases decided <;> rfl

/-- **At every depth up to the limit the order is found**, and the depth is counted without
overflow. -/
theorem compareFrom_eq {remaining depth : Nat} (within : remaining + depth = Store.depthLimit)
    (left right : Value) : compareFrom s (remaining + 1) depth left right =
      .ok (s.compareWithin remaining left right) := by
  -- the calls that remain and the depth add up to the limit
  induction remaining generalizing depth left right with
  | zero =>
    have atLimit : Store.depthLimit ≤ depth := by omega
    exact compareWith_eq s (fun xs ys => if_pos atLimit) left right
  | succ remaining ih =>
    have below : ¬ Store.depthLimit ≤ depth := by omega
    have counted : countUp depth = .ok (depth + 1) := by
      rw [Store.depthLimit] at within
      exact countUp_of_lt (by omega)
    refine compareWith_eq s (fun xs ys => ?_) left right
    rw [compareSequences, if_neg below, counted, ok_bind]
    exact compareItems_eq s (ih (by omega)) xs ys

/-- **Comparing values does not go wrong.** -/
theorem compare_eq (left right : Value) : compare s left right = .ok (s.compare left right) :=
  compareFrom_eq s (Nat.add_zero _) left right

/-! ### Sorting -/

section Sorting

variable {α ε : Type}

/-- Merges two runs. -/
def merge (precedes : α → α → Checked (Except ε Bool)) :
    List α → List α → Checked (Except ε (List α))
  | [], right => .ok (.ok right)
  | left, [] => .ok (.ok left)
  | l :: left, r :: right =>
    andThen (precedes r l) fun first =>
      if first then (·.map (r :: ·)) <$> merge precedes (l :: left) right
      else (·.map (l :: ·)) <$> merge precedes left (r :: right)
termination_by left right => left.length + right.length

theorem length_of_splitAt {items front back : List α} {cut : Nat}
    (parts : splitAt items cut = .ok (front, back)) :
    front.length ≤ cut ∧ back.length = items.length - cut := by
  unfold splitAt at parts
  split at parts <;> cases parts
  exact ⟨List.length_take_le _ _, List.length_drop⟩

/-- Merges two runs into room for both. -/
def mergeRuns (precedes : α → α → Checked (Except ε Bool)) (left right : List α) :
    Checked (Except ε (List α)) := do
  let _room ← Width.unsigned64.check (left.length + right.length)
  merge precedes left right

/-- Merge sort. -/
def mergeSort (precedes : α → α → Checked (Except ε Bool)) (items : List α) :
    Checked (Except ε (List α)) :=
  if _many : 2 ≤ items.length then
    match _parts : splitAt items (items.length / 2) with
    | .error fault => .error fault
    | .ok (front, back) =>
      andThen (mergeSort precedes front) fun left =>
        andThen (mergeSort precedes back) fun right => mergeRuns precedes left right
  else .ok (.ok items)
termination_by items.length
decreasing_by
  · have shorter := (length_of_splitAt _parts).1
    omega
  · have shorter := (length_of_splitAt _parts).2
    omega

variable {precedes : α → α → Checked (Except ε Bool)} {precedes' : α → α → Except ε Bool}

/-- The cut in the middle lies inside. -/
theorem mergeSort_of_many {items : List α} (many : 2 ≤ items.length) :
    mergeSort precedes items =
      andThen (mergeSort precedes (items.take (items.length / 2))) fun left =>
        andThen (mergeSort precedes (items.drop (items.length / 2))) fun right =>
          mergeRuns precedes left right := by
  have inside := splitAt_of_le (Nat.div_le_self items.length 2)
  rw [mergeSort, dif_pos many]
  split
  case h_1 fault parts =>
    rw [inside] at parts
    cases parts
  case h_2 front back parts =>
    rw [inside] at parts
    cases parts
    rfl

theorem merge_eq (same : ∀ a b, precedes a b = .ok (precedes' a b)) (left right : List α) :
    merge precedes left right = .ok (Sorting.merge precedes' left right) := by
  fun_induction Sorting.merge precedes' left right with
  | case1 right => rw [merge]
  | case2 left nonempty =>
    rw [merge]
    exact nonempty
  | case3 l left r right e asked => rw [merge, same, asked, andThen_error]
  | case4 l left r right asked ih => rw [merge, same, asked, andThen_ok, if_pos rfl, ih, map_ok]
  | case5 l left r right asked ih =>
    rw [merge, same, asked, andThen_ok, if_neg Bool.false_ne_true, ih, map_ok]

/-- The lengths of two runs are added up without overflow if their sum is a word. -/
theorem mergeRuns_eq (same : ∀ a b, precedes a b = .ok (precedes' a b)) {left right : List α}
    (word : left.length + right.length < 2 ^ 64) :
    mergeRuns precedes left right = .ok (Sorting.merge precedes' left right) := by
  have room : Width.unsigned64.check (left.length + right.length) =
      .ok (left.length + right.length) :=
    Width.check_of_fits (Width.fits_unsigned64_iff.mpr (by omega))
  rw [mergeRuns, room, ok_bind, merge_eq same]

/-- **A sort does not go wrong** if the number of its items is a word. -/
theorem mergeSort_eq (same : ∀ a b, precedes a b = .ok (precedes' a b)) {items : List α}
    (word : items.length < 2 ^ 64) :
    mergeSort precedes items = .ok (Sorting.sort precedes' items) := by
  fun_induction Sorting.sort precedes' items with
  | case1 items many e failed ih =>
    have front := ih (Nat.lt_of_le_of_lt (List.take_sublist _ _).length_le word)
    rw [mergeSort_of_many many, front, failed, andThen_error]
  | case2 items many left sorted e failed ih ih' =>
    have front := ih (Nat.lt_of_le_of_lt (List.take_sublist _ _).length_le word)
    have back := ih' (Nat.lt_of_le_of_lt (List.drop_sublist _ _).length_le word)
    rw [mergeSort_of_many many, front, sorted, andThen_ok, back, failed, andThen_error]
  | case3 items many left sorted right sorted' ih ih' =>
    have front := ih (Nat.lt_of_le_of_lt (List.take_sublist _ _).length_le word)
    have back := ih' (Nat.lt_of_le_of_lt (List.drop_sublist _ _).length_le word)
    have lengths : left.length + right.length = items.length := by
      rw [(Sorting.sort_perm sorted).length_eq, (Sorting.sort_perm sorted').length_eq,
        ← List.length_append, List.take_append_drop]
    rw [mergeSort_of_many many, front, sorted, andThen_ok, back, sorted', andThen_ok,
      mergeRuns_eq same (lengths ▸ word)]
  | case4 items few => rw [mergeSort, dif_neg few]

end Sorting

/-- A later item must come before an earlier one. -/
def precedes (s : Store) (descending : Bool) (later earlier : Value) :
    Checked (Except Cause Bool) :=
  (·.map (· == .lt)) <$> if descending then compare s earlier later else compare s later earlier

/-- Sorts values. -/
def sort (s : Store) (descending : Bool) (items : List Value) :
    Checked (Except Cause (List Value)) :=
  mergeSort (precedes s descending) items

/-- **Sorting values does not go wrong.** -/
theorem sort_eq (descending : Bool) {items : List Value} (word : items.length < 2 ^ 64) :
    sort s descending items = .ok (s.sort descending items) := by
  refine mergeSort_eq (fun later earlier => ?_) word
  rw [precedes, Store.precedes, compare_eq, compare_eq]
  cases descending <;> rfl

end Checked

end CallConsole
