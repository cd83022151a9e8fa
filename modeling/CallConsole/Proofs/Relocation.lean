/-
**Stores above other stores.**

A store can be put on top of another one: each of its objects gets a number behind those of the
other, and so does every reference to it. What is there below is out of its reach, so nothing that
can be asked of its values depends on what that is:

* `Slot.of?_above`, `Dict.put_above`: keys have the slots that they had;
* `Store.items_above`, `Store.contents_above`: lists and dicts hold what they held, put above;
* `Store.str_above`, `Store.equal_above`, `Store.sort_above`: texts, equality and order are the
  same above as below.
-/

import CallConsole.Builtin

namespace CallConsole

variable (base : Store)

/-! ### Values -/

/-- The identity of an object above those of a store. -/
def Identity.above : Identity → Identity
  | .object id => .object (base.next + id)
  | .list place => .list (base.lists.size + place)
  | .dict place => .dict (base.dicts.size + place)

theorem Identity.above_injective : Function.Injective (Identity.above base) := by
  intro first second same
  cases first <;> cases second <;> simp_all [above]

namespace Value

mutual

/-- **The value above the objects of a store.** -/
def above : Value → Value
  | .null id => .null (base.next + id)
  | .bool id b => .bool (base.next + id) b
  | .int id n => .int (base.next + id) n
  | .float id x => .float (base.next + id) x
  | .str id text => .str (base.next + id) text
  | .list place => .list (base.lists.size + place)
  | .dict place => .dict (base.dicts.size + place)
  | .tuple id items => .tuple (base.next + id) (aboveAll items)
  | .range id r => .range (base.next + id) r
  | .reversed id items => .reversed (base.next + id) (aboveAll items)
  | .reversedRange id r => .reversedRange (base.next + id) r
  | .enumerate id source start => .enumerate (base.next + id) (above source) start
  | .zip id sources => .zip (base.next + id) (aboveAll sources)

/-- Values above the objects of a store. -/
def aboveAll : List Value → List Value
  | [] => []
  | v :: rest => above v :: aboveAll rest

end

theorem aboveAll_eq_map (vs : List Value) : aboveAll base vs = vs.map (above base) := by
  induction vs with
  | nil => rfl
  | cons v rest ih => rw [aboveAll, ih, List.map_cons]

theorem type_above (v : Value) : (v.above base).type = v.type := by
  cases v <;> rfl

theorem iterable_above (v : Value) : (v.above base).iterable = v.iterable := by
  cases v <;> rfl

theorem integer?_above (v : Value) : (v.above base).integer? = v.integer? := by
  cases v <;> rfl

theorem text?_above (v : Value) : (v.above base).text? = v.text? := by
  cases v <;> rfl

theorem isInstance_above (v : Value) (typeName : String) :
    (v.above base).isInstance typeName = v.isInstance typeName := by
  rw [isInstance, isInstance, type_above]

end Value

theorem Number.of?_above (v : Value) : Number.of? (v.above base) = Number.of? v := by
  cases v <;> rfl

/-! ### Dicts -/

namespace Slot

mutual

/-- **A key has the same slot above.** -/
theorem of?_above (v : Value) : of? (v.above base) = of? v := by
  cases v with
  | tuple id items => rw [Value.above, of?, of?, ofItems?_aboveAll items]
  | _ => rfl

theorem ofItems?_aboveAll (vs : List Value) : ofItems? (Value.aboveAll base vs) = ofItems? vs := by
  cases vs with
  | nil => rfl
  | cons v rest => rw [Value.aboveAll, ofItems?, ofItems?, of?_above v, ofItems?_aboveAll rest]

end

end Slot

namespace Entry

/-- The entry above the objects of a store. -/
def above (e : Entry) : Entry where
  slot := e.slot
  key := e.key.above base
  value := e.value.above base
  hashed := (Slot.of?_above base e.key).trans e.hashed

theorem slot_comp_above : Entry.slot ∘ above base = Entry.slot := rfl

theorem replace_above (slot : Slot) (value : Value) (e : Entry) :
    (e.above base).replace slot (value.above base) = (e.replace slot value).above base := by
  unfold replace
  split <;> split
  case isTrue.isTrue => rfl
  case isTrue.isFalse same other => exact absurd same other
  case isFalse.isTrue other same => exact absurd same other
  case isFalse.isFalse => rfl

end Entry

namespace Dict

/-- The dict above the objects of a store. -/
def above (d : Dict) : Dict where
  entries := d.entries.map (Entry.above base)
  distinct := by
    rw [List.map_map, Entry.slot_comp_above]
    exact d.distinct

theorem ext_entries {d d' : Dict} (same : d.entries = d'.entries) : d = d' := by
  cases d
  cases d'
  cases same
  rfl

theorem length_above (d : Dict) : (d.above base).length = d.length := List.length_map _

theorem keys_above (d : Dict) : (d.above base).keys = d.keys.map (Value.above base) := by
  rw [keys, keys, above, List.map_map, List.map_map]
  rfl

theorem entryAt?_above (d : Dict) (slot : Slot) :
    (d.above base).entryAt? slot = (d.entryAt? slot).map (Entry.above base) := by
  rw [entryAt?, entryAt?, above, List.find?_map]
  rfl

theorem valueAt?_above (d : Dict) (slot : Slot) :
    (d.above base).valueAt? slot = (d.valueAt? slot).map (Value.above base) := by
  rw [valueAt?, valueAt?, entryAt?_above, Option.map_map, Option.map_map]
  rfl

/-- **An entry is written above as it is below.** -/
theorem put_above (d : Dict) (e : Entry) :
    (d.above base).put (e.above base) = (d.put e).above base := by
  apply ext_entries
  by_cases missing : d.entryAt? e.slot = none
  · have above : (d.above base).entryAt? (e.above base).slot = none := by
      rw [entryAt?_above, Entry.above, missing, Option.map_none]
    rw [entries_put_of_missing above]
    show _ = (d.put e).entries.map (Entry.above base)
    rw [entries_put_of_missing missing, List.map_append]
    rfl
  · have above : (d.above base).entryAt? (e.above base).slot ≠ none := by
      rw [entryAt?_above, Entry.above, Ne, Option.map_eq_none_iff]
      exact missing
    rw [entries_put_of_present above]
    show _ = (d.put e).entries.map (Entry.above base)
    rw [entries_put_of_present missing, Dict.above, List.map_map, List.map_map]
    exact List.map_congr_left fun other _ => other.replace_above base e.slot e.value

end Dict

/-! ### Stores -/

namespace Store

/-- **The store above another one**: its lists and dicts behind those of the other, and the next
object numbered behind all objects of both. -/
def above (s : Store) : Store where
  lists := base.lists ++ s.lists.map (·.map (Value.above base))
  dicts := base.dicts ++ s.dicts.map (Dict.above base)
  next := base.next + s.next

variable (s : Store)

/-- Nothing above a store is the store itself. -/
theorem above_empty : base.above empty = base := by
  rw [above, empty, Array.map_empty, Array.map_empty, Array.append_empty, Array.append_empty]
  rfl

theorem size_lists_above : (base.above s).lists.size = base.lists.size + s.lists.size := by
  rw [above, Array.size_append, Array.size_map]

theorem size_dicts_above : (base.above s).dicts.size = base.dicts.size + s.dicts.size := by
  rw [above, Array.size_append, Array.size_map]

/-- A list above holds what it held, put above. -/
theorem items_above (place : Nat) :
    (base.above s).items (base.lists.size + place) = (s.items place).map (Value.above base) := by
  rw [items, above, Array.getElem?_append_right (Nat.le_add_right _ _), Nat.add_sub_cancel_left,
    Array.getElem?_map, items]
  cases s.lists[place]? with
  | none => exact Array.map_empty.symm
  | some items => rfl

/-- A dict above holds what it held, put above. -/
theorem contents_above (place : Nat) :
    (base.above s).contents (base.dicts.size + place) = (s.contents place).above base := by
  rw [contents, above, Array.getElem?_append_right (Nat.le_add_right _ _), Nat.add_sub_cancel_left,
    Array.getElem?_map, contents]
  cases s.dicts[place]? with
  | none => rfl
  | some d => rfl

theorem createList_above (items : List Value) :
    (base.above s).createList (items.map (Value.above base)) =
      ((s.createList items).1.above base, base.above (s.createList items).2) := by
  have pushed : (base.above s).lists.push (items.map (Value.above base)).toArray =
      base.lists ++ (s.lists.push items.toArray).map (·.map (Value.above base)) := by
    rw [above, ← List.map_toArray, Array.map_push, Array.append_push]
  rw [createList, createList, size_lists_above, pushed]
  rfl

theorem createDict_above (d : Dict) :
    (base.above s).createDict (d.above base) =
      ((s.createDict d).1.above base, base.above (s.createDict d).2) := by
  have pushed : (base.above s).dicts.push (d.above base) =
      base.dicts ++ (s.dicts.push d).map (Dict.above base) := by
    rw [above, Array.map_push, Array.append_push]
  rw [createDict, createDict, size_dicts_above, pushed]
  rfl

/-! ### Texts -/

theorem size_items_above (place : Nat) :
    ((base.above s).items (base.lists.size + place)).size = (s.items place).size := by
  rw [items_above, Array.size_map]

theorem isEmpty_items_above (place : Nat) :
    ((base.above s).items (base.lists.size + place)).isEmpty = (s.items place).isEmpty := by
  rw [Array.isEmpty, Array.isEmpty, size_items_above]

theorem lt_size_lists_above (place : Nat) :
    base.lists.size + place < (base.above s).lists.size ↔ place < s.lists.size := by
  rw [size_lists_above, Nat.add_lt_add_iff_left]

theorem lt_size_dicts_above (place : Nat) :
    base.dicts.size + place < (base.above s).dicts.size ↔ place < s.dicts.size := by
  rw [size_dicts_above, Nat.add_lt_add_iff_left]

/-- A walk is inside of the same containers above. -/
theorem mem_map_above (active : List Identity) (identity : Identity) :
    identity.above base ∈ active.map (Identity.above base) ↔ identity ∈ active := by
  refine ⟨fun member => ?_, List.mem_map_of_mem⟩
  obtain ⟨other, there, same⟩ := List.mem_map.mp member
  exact Identity.above_injective base same ▸ there

mutual

/-- **A value has the same text above.** -/
theorem reprInside_above (active : List Identity) (v : Value) :
    (base.above s).reprInside (active.map (Identity.above base)) (v.above base) =
      s.reprInside active v := by
  cases v with
  | null | int | float | str | range | reversed | reversedRange | enumerate | zip =>
    rw [Value.above, reprInside, reprInside]
  | bool id b => cases b <;> rw [Value.above, reprInside, reprInside]
  | list place =>
    rw [Value.above, reprInside, reprInside]
    have same : .list (base.lists.size + place) ∈ active.map (Identity.above base) ↔
      .list place ∈ active := mem_map_above base active (.list place)
    by_cases met : .list place ∈ active
    · rw [if_pos met, if_pos (same.mpr met)]
    · rw [if_neg met, if_neg (mt same.mp met)]
      by_cases inside : place < s.lists.size
      · rw [dif_pos inside, dif_pos ((lt_size_lists_above base s place).mpr inside), items_above,
          Array.toList_map]
        rw [← reprItems_above (.list place :: active) (s.items place).toList]
        rfl
      · rw [dif_neg inside, dif_neg (mt (lt_size_lists_above base s place).mp inside)]
  | dict place =>
    rw [Value.above, reprInside, reprInside]
    have same : .dict (base.dicts.size + place) ∈ active.map (Identity.above base) ↔
      .dict place ∈ active := mem_map_above base active (.dict place)
    by_cases met : .dict place ∈ active
    · rw [if_pos met, if_pos (same.mpr met)]
    · rw [if_neg met, if_neg (mt same.mp met)]
      by_cases inside : place < s.dicts.size
      · rw [dif_pos inside, dif_pos ((lt_size_dicts_above base s place).mpr inside), contents_above]
        rw [← reprEntries_above (.dict place :: active) (s.contents place).entries]
        rfl
      · rw [dif_neg inside, dif_neg (mt (lt_size_dicts_above base s place).mp inside)]
  | tuple id items =>
    rw [Value.above, reprInside, reprInside, Value.aboveAll_eq_map, List.length_map,
      reprItems_above active items]
termination_by (outside s.containers active, sizeOf v)
decreasing_by
  · exact Prod.Lex.left _ _ (outside_cons_lt (list_mem_containers inside) met)
  · exact Prod.Lex.left _ _ (outside_cons_lt (dict_mem_containers inside) met)
  · exact Prod.Lex.right _ (by simp +arith)

theorem reprItems_above (active : List Identity) (vs : List Value) :
    (base.above s).reprItems (active.map (Identity.above base)) (vs.map (Value.above base)) =
      s.reprItems active vs := by
  cases vs with
  | nil => rw [List.map_nil, reprItems, reprItems]
  | cons v rest =>
    rw [List.map_cons, reprItems, reprItems, reprInside_above active v, reprItems_above active rest]
termination_by (outside s.containers active, sizeOf vs)
decreasing_by
  all_goals exact Prod.Lex.right _ (by simp +arith)

theorem reprEntries_above (active : List Identity) (entries : List Entry) :
    (base.above s).reprEntries (active.map (Identity.above base))
      (entries.map (Entry.above base)) = s.reprEntries active entries := by
  cases entries with
  | nil => rw [List.map_nil, reprEntries, reprEntries]
  | cons e rest =>
    rw [List.map_cons, reprEntries, reprEntries, Entry.above, reprInside_above active e.key,
      reprInside_above active e.value, reprEntries_above active rest]
termination_by (outside s.containers active, sizeOf entries)
decreasing_by
  · exact Prod.Lex.right _ (by cases e; simp +arith)
  · exact Prod.Lex.right _ (by cases e; simp +arith)
  · exact Prod.Lex.right _ (by simp +arith)

end

theorem repr_above (v : Value) : (base.above s).repr (v.above base) = s.repr v :=
  reprInside_above base s [] v

theorem str_above (v : Value) : (base.above s).str (v.above base) = s.str v := by
  cases v with
  | str id text => rfl
  | _ => exact repr_above base s _

/-! ### Equality -/

end Store

/-- The pair of containers above the objects of a store. -/
def ContainerPair.above : ContainerPair → ContainerPair
  | .lists left right => .lists (base.lists.size + left) (base.lists.size + right)
  | .dicts left right => .dicts (base.dicts.size + left) (base.dicts.size + right)

theorem ContainerPair.above_injective : Function.Injective (ContainerPair.above base) := by
  intro first second same
  cases first <;> cases second <;> simp_all [above]

namespace Store

variable (s : Store)

/-- A pair is assumed to be equal above if it was. -/
theorem mem_map_abovePair (active : List ContainerPair) (pair : ContainerPair) :
    pair.above base ∈ active.map (ContainerPair.above base) ↔ pair ∈ active := by
  refine ⟨fun member => ?_, List.mem_map_of_mem⟩
  obtain ⟨other, there, same⟩ := List.mem_map.mp member
  exact ContainerPair.above_injective base same ▸ there

/-- Values of different types are not equal, unless they are numbers. -/
theorem equalInside_of_type_ne (active : List ContainerPair) {left right : Value}
    (different : left.type ≠ right.type)
    (notNumbers : Number.of? left = none ∨ Number.of? right = none) :
    s.equalInside active left right = false := by
  rw [equalInside.eq_def]
  split
  case h_1 a b first second =>
    rcases notNumbers with missing | missing
    · cases first.symm.trans missing
    · cases second.symm.trans missing
  case h_2 =>
    split
    case h_13 => rfl
    all_goals exact absurd rfl different

/-- Numbers are equal if their values are. -/
theorem equalInside_of_numbers (active : List ContainerPair) {left right : Value} {a b : Number}
    (first : Number.of? left = some a) (second : Number.of? right = some b) :
    s.equalInside active left right = decide (a.order? b = some .eq) := by
  rw [equalInside.eq_def, first, second]

/-- Lazy sequences are equal above if they were the same object. -/
theorem decide_next_above (i j : Nat) :
    decide (base.next + i = base.next + j) = decide (i = j) := by
  simp only [Nat.add_left_cancel_iff]

mutual

/-- **Values are equal above if they were.** -/
theorem equalInside_above (active : List ContainerPair) (left right : Value) :
    (base.above s).equalInside (active.map (ContainerPair.above base)) (left.above base)
      (right.above base) = s.equalInside active left right := by
  by_cases numbers : Number.of? left = none ∨ Number.of? right = none
  case neg =>
    obtain ⟨some, other⟩ := not_or.mp numbers
    obtain ⟨a, first⟩ := Option.ne_none_iff_exists'.mp some
    obtain ⟨b, second⟩ := Option.ne_none_iff_exists'.mp other
    rw [equalInside_of_numbers s active first second, equalInside_of_numbers (base.above s) _
      ((Number.of?_above base left).trans first) ((Number.of?_above base right).trans second)]
  case pos =>
    by_cases type : left.type = right.type
    case neg =>
      rw [equalInside_of_type_ne s active type numbers, equalInside_of_type_ne (base.above s) _
        (by rwa [Value.type_above, Value.type_above])
        (by rwa [Number.of?_above, Number.of?_above])]
    case pos =>
      cases left with
      | bool | int | float =>
        cases right with
        | bool | int | float => rcases numbers with missing | missing <;> cases missing
        | _ => cases type
      | null | str | range =>
        cases right with
        | null | str | range =>
          first
          | contradiction
          | rw [equalInside.eq_def, equalInside.eq_def]; rfl
        | _ => cases type
      | reversed | reversedRange | enumerate | zip =>
        cases right with
        | reversed | reversedRange | enumerate | zip =>
          first
          | contradiction
          | rw [equalInside.eq_def, equalInside.eq_def]; exact decide_next_above base _ _
        | _ => cases type
      | tuple id xs =>
        cases right with
        | tuple id' ys =>
          rw [Value.above, Value.above, equalInside.eq_def, equalInside.eq_def]
          simp only [Number.of?]
          rw [Value.aboveAll_eq_map, Value.aboveAll_eq_map, equalItems_above active xs ys]
        | _ => cases type
      | list i =>
        cases right with
        | list j =>
          have same : .lists (base.lists.size + i) (base.lists.size + j) ∈
              active.map (ContainerPair.above base) ↔ .lists i j ∈ active :=
            mem_map_abovePair base active (.lists i j)
          rw [Value.above, Value.above, equalInside.eq_def, equalInside.eq_def]
          simp only [Number.of?, Nat.add_left_cancel_iff, same, lt_size_lists_above,
            isEmpty_items_above]
          by_cases known : i = j ∨ .lists i j ∈ active
          · rw [if_pos known, if_pos known]
          · rw [if_neg known, if_neg known]
            by_cases inside : i < s.lists.size ∧ j < s.lists.size
            · rw [dif_pos inside, dif_pos inside, items_above, items_above, Array.toList_map,
                Array.toList_map]
              exact equalItems_above (.lists i j :: active) _ _
            · rw [dif_neg inside, dif_neg inside]
        | _ => cases type
      | dict i =>
        cases right with
        | dict j =>
          have same : .dicts (base.dicts.size + i) (base.dicts.size + j) ∈
              active.map (ContainerPair.above base) ↔ .dicts i j ∈ active :=
            mem_map_abovePair base active (.dicts i j)
          rw [Value.above, Value.above, equalInside.eq_def, equalInside.eq_def]
          simp only [Number.of?, Nat.add_left_cancel_iff, same, lt_size_dicts_above, contents_above,
            Dict.length_above]
          by_cases known : i = j ∨ .dicts i j ∈ active
          · rw [if_pos known, if_pos known]
          · rw [if_neg known, if_neg known]
            by_cases inside : i < s.dicts.size ∧ j < s.dicts.size
            · rw [dif_pos inside, dif_pos inside]
              rw [← equalEntries_above (.dicts i j :: active) _ _]
              rfl
            · rw [dif_neg inside, dif_neg inside, Dict.above, Dict.above, List.isEmpty_map,
                List.isEmpty_map]
        | _ => cases type
termination_by (outside s.containerPairs active, sizeOf left)
decreasing_by
  · exact Prod.Lex.left _ _ (outside_cons_lt
      (mem_containerPairs_lists inside.1 inside.2) fun member => known (.inr member))
  · exact Prod.Lex.left _ _ (outside_cons_lt
      (mem_containerPairs_dicts inside.1 inside.2) fun member => known (.inr member))
  · exact Prod.Lex.right _ (by simp +arith)

theorem equalItems_above (active : List ContainerPair) (xs ys : List Value) :
    (base.above s).equalItems (active.map (ContainerPair.above base)) (xs.map (Value.above base))
      (ys.map (Value.above base)) = s.equalItems active xs ys := by
  cases xs with
  | nil => cases ys <;> simp only [List.map_nil, List.map_cons, equalItems]
  | cons x xs =>
    cases ys with
    | nil => rw [List.map_nil, List.map_cons, equalItems, equalItems] <;> nofun
    | cons y ys =>
      rw [List.map_cons, List.map_cons, equalItems, equalItems, equalInside_above active x y,
        equalItems_above active xs ys]
termination_by (outside s.containerPairs active, sizeOf xs)
decreasing_by
  all_goals exact Prod.Lex.right _ (by simp +arith)

theorem equalEntries_above (active : List ContainerPair) (entries : List Entry) (other : Dict) :
    (base.above s).equalEntries (active.map (ContainerPair.above base))
      (entries.map (Entry.above base)) (other.above base) =
        s.equalEntries active entries other := by
  cases entries with
  | nil => rw [List.map_nil, equalEntries, equalEntries]
  | cons e rest =>
    rw [List.map_cons, equalEntries, equalEntries, equalEntries_above active rest other]
    have found : (other.above base).valueAt? (e.above base).slot =
        (other.valueAt? e.slot).map (Value.above base) := Dict.valueAt?_above base other e.slot
    rw [found]
    cases other.valueAt? e.slot with
    | none => rfl
    | some theirs => exact congrArg (· && _) (equalInside_above active e.value theirs)
termination_by (outside s.containerPairs active, sizeOf entries)
decreasing_by
  · exact Prod.Lex.right _ (by simp +arith)
  · exact Prod.Lex.right _ (by cases e; simp +arith)

end

theorem equal_above (left right : Value) :
    (base.above s).equal (left.above base) (right.above base) = s.equal left right :=
  equalInside_above base s [] left right

/-! ### Order -/

theorem compareItems_above {equal equal' : Value → Value → Bool}
    {order order' : Value → Value → Except Cause Ordering}
    (equals : ∀ x y, equal' (x.above base) (y.above base) = equal x y)
    (orders : ∀ x y, order' (x.above base) (y.above base) = order x y) (xs ys : List Value) :
    compareItems equal' order' (xs.map (Value.above base)) (ys.map (Value.above base)) =
      compareItems equal order xs ys := by
  induction xs generalizing ys with
  | nil => rw [List.map_nil, compareItems, compareItems, List.length_map] <;> nofun
  | cons x xs ih =>
    cases ys with
    | nil =>
      rw [List.map_nil, compareItems, compareItems, List.length_map] <;> nofun
    | cons y ys =>
      rw [List.map_cons, List.map_cons, compareItems, compareItems, equals, orders, ih]

theorem compareWith_above {items items' : List Value → List Value → Except Cause Ordering}
    (same : ∀ xs ys, items' (xs.map (Value.above base)) (ys.map (Value.above base)) = items xs ys)
    (left right : Value) :
    (base.above s).compareWith items' (left.above base) (right.above base) =
      s.compareWith items left right := by
  unfold compareWith
  rw [Number.of?_above, Number.of?_above, Value.type_above, Value.type_above]
  split
  case h_1 => rfl
  case h_2 =>
    cases left with
    | list i =>
      cases right with
      | list j => simp only [Value.above, items_above, Array.toList_map, same]
      | _ => rfl
    | tuple id xs =>
      cases right with
      | tuple id' ys => simp only [Value.above, Value.aboveAll_eq_map, same]
      | _ => rfl
    | str => cases right <;> rfl
    | _ => rfl

theorem compareWithin_above (depth : Nat) (left right : Value) :
    (base.above s).compareWithin depth (left.above base) (right.above base) =
      s.compareWithin depth left right := by
  induction depth generalizing left right with
  | zero => exact compareWith_above base s (fun _ _ => rfl) left right
  | succ depth ih =>
    exact compareWith_above base s (compareItems_above base (equal_above base s) ih) left right

theorem compare_above (left right : Value) :
    (base.above s).compare (left.above base) (right.above base) = s.compare left right :=
  compareWithin_above base s depthLimit left right

end Store

/-- **Values are sorted above as they were.** -/
theorem Store.sort_above (s : Store) (descending : Bool) (items : List Value) :
    (base.above s).sort descending (items.map (Value.above base)) =
      (s.sort descending items).map (·.map (Value.above base)) := by
  rw [sort, Sorting.sort_map]
  have same (x y : Value) : (base.above s).precedes descending (x.above base) (y.above base) =
      s.precedes descending x y := by
    rw [precedes, precedes, compare_above, compare_above]
  rw [funext fun x => funext fun y => same x y]
  rfl

end CallConsole
