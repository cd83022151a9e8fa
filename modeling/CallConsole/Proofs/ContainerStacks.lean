/-
**Walks with one stack.**

The text of a value and the equality of two values are found by walks into containers. Such a walk
can be made with one stack for all of it: it pushes a container when it goes in, and pops one when
it comes out. Whether a call leaves behind the stack that it has found is then a matter of every
push having its pop. Nothing in such a walk says how deep it goes, so it has a depth, which does not
matter if it is large enough:

* `Arrives`: how a walk ends that may go deep enough;
* `Writing.value`, `Matching.values`: the two walks, down to a depth;
* `Writing.value_eq`: the writing of a value ends; it has added the text of the value to the page,
  and given the stack back;
* `Matching.values_eq`: the comparison of two values ends; it has found out whether they are equal,
  and given the stack back.
-/

import CallConsole.Proofs.Equality
import CallConsole.Render

namespace CallConsole

/-! ### Walks with a depth -/

section

variable {σ α β : Type} {s s' s'' : σ} {a : α} {b : β}

/-- A walk that goes on after its first step. -/
theorem StateT.bind_of_some {first : StateT σ Option α} (done : first s = some (a, s'))
    (next : α → StateT σ Option β) : (first >>= next) s = next a s' := by
  simp only [Bind.bind, StateT.bind, done, Option.bind_some]

/-- **If it may go deep enough, the walk ends**: with a result, and with what it has made of its
state. -/
def Arrives (walk : Nat → StateT σ Option α) (s : σ) (a : α) (s' : σ) : Prop :=
  ∃ least, ∀ depth, least ≤ depth → walk depth s = some (a, s')

namespace Arrives

variable {walk : Nat → StateT σ Option α}

/-- A single step needs no depth. -/
theorem flat {step : StateT σ Option α} (done : step s = some (a, s')) :
    Arrives (fun _ => step) s a s' :=
  ⟨0, fun _ _ => done⟩

/-- A walk inside of another one is one deeper. -/
theorem deeper (arrives : Arrives walk s a s') {outer : Nat → StateT σ Option α}
    (same : ∀ depth, outer (depth + 1) s = walk depth s) : Arrives outer s a s' := by
  obtain ⟨least, done⟩ := arrives
  refine ⟨least + 1, fun depth enough => ?_⟩
  obtain ⟨less, rfl⟩ := Nat.exists_eq_add_of_le' (Nat.le_trans (Nat.le_add_left 1 least) enough)
  rw [same, done less (Nat.le_of_succ_le_succ enough)]

/-- Two walks, one after the other, end as the second one does. -/
theorem bind (arrives : Arrives walk s a s') {next : Nat → α → StateT σ Option β}
    (later : Arrives (next · a) s' b s'') :
    Arrives (fun depth => walk depth >>= next depth) s b s'' := by
  obtain ⟨least, done⟩ := arrives
  obtain ⟨least', done'⟩ := later
  refine ⟨max least least', fun depth enough => ?_⟩
  have first := done depth (Nat.le_trans (Nat.le_max_left _ _) enough)
  exact (StateT.bind_of_some first _).trans
    (done' depth (Nat.le_trans (Nat.le_max_right _ _) enough))

end Arrives

end

/-! ### Writing -/

/-- What has been written so far, and the stack of containers that the writing is inside of. -/
structure Page where
  text : List Char
  inside : List Identity

namespace Page

/-- More text on the page, and the same stack. -/
def add (page : Page) (text : List Char) : Page := { page with text := page.text ++ text }

/-- The container on top of the stack. -/
def enter (page : Page) (container : Identity) : Page :=
  { page with inside := container :: page.inside }

/-- The stack without what is on top of it. -/
def leave (page : Page) : Page := { page with inside := page.inside.tail }

variable (page : Page)

theorem add_nil : page.add [] = page := by
  rw [add, List.append_nil]

@[simp] theorem add_add (text more : List Char) :
    (page.add text).add more = page.add (text ++ more) := by
  rw [add, add, add, List.append_assoc]

/-- What is written between a push and its pop stays on the page. -/
@[simp] theorem leave_add_enter (container : Identity) (text : List Char) :
    ((page.enter container).add text).leave = page.add text := rfl

end Page

/-- **Writing on a page**, which is aborted where it would go too deep. -/
abbrev Writing := StateT Page Option

namespace Writing

/-- Writes characters. -/
def add (text : List Char) : Writing Unit := modify (·.add text)

/-- Goes into a container. -/
def enter (container : Identity) : Writing Unit := modify (·.enter container)

/-- Comes out of the container that was entered last. -/
def leave : Writing Unit := modify Page.leave

/-- The writing is inside of the container. -/
def isInside (container : Identity) : Writing Bool := return (← get).inside.contains container

/-- Writes what a container holds between brackets, or dots if the writing is inside of it. -/
def within (container : Identity) (opening closing : Char) (held : Writing Unit) :
    Writing Unit := do
  if ← isInside container then add [opening, '.', '.', '.', closing]
  else
    enter container
    add [opening]
    held
    leave
    add [closing]

/-- Writes items, with a comma and a blank before all but the first one. -/
def items (write : Value → Writing Unit) (first : Bool) : List Value → Writing Unit
  | [] => pure ()
  | item :: rest => do
    add (if first then [] else [',', ' '])
    write item
    items write false rest

/-- Writes entries, with a comma and a blank before all but the first one. -/
def entries (write : Value → Writing Unit) (first : Bool) : List Entry → Writing Unit
  | [] => pure ()
  | e :: rest => do
    add (if first then [] else [',', ' '])
    write e.key
    add [':', ' ']
    write e.value
    entries write false rest

/-- **Writes the text of a value.** -/
def value (s : Store) : Nat → Value → Writing Unit
  | 0, _ => fun _ => none
  | depth + 1, v =>
    match v with
    | .null _ => add ['N', 'o', 'n', 'e']
    | .bool _ true => add ['T', 'r', 'u', 'e']
    | .bool _ false => add ['F', 'a', 'l', 's', 'e']
    | .int _ n => add n.text
    | .float _ x => add x.text
    | .str _ text => add (Quoted.encode text)
    | .list place =>
      within (.list place) '[' ']' (items (value s depth) true (s.items place).toList)
    | .tuple _ elements => do
      add ['(']
      items (value s depth) true elements
      add (if elements.length = 1 then [',', ')'] else [')'])
    | .dict place =>
      within (.dict place) '{' '}' (entries (value s depth) true (s.contents place).entries)
    | .range _ r => add r.text
    | .reversed .. | .reversedRange .. => add "<reversed object>".toList
    | .enumerate .. => add "<enumerate object>".toList
    | .zip .. => add "<zip object>".toList

/-! ### What has been written -/

/-- Texts with a comma and a blank before all but the first one. -/
def joined (first : Bool) : List (List Char) → List Char
  | [] => []
  | text :: rest => (if first then [] else [',', ' ']) ++ text ++ joined false rest

/-- Such texts have commas and blanks between them. -/
theorem joined_true (texts : List (List Char)) : joined true texts = commaSeparated texts := by
  induction texts with
  | nil => rfl
  | cons text rest ih =>
    cases rest with
    | nil => simp [joined, commaSeparated]
    | cons other others => simp [joined, commaSeparated, ← ih]

section Steps

variable (page : Page) (container : Identity) (text : List Char)

theorem add_apply : add text page = some ((), page.add text) := rfl

theorem enter_apply : enter container page = some ((), page.enter container) := rfl

theorem leave_apply : leave page = some ((), page.leave) := rfl

theorem isInside_apply :
    isInside container page = some (page.inside.contains container, page) := rfl

end Steps

/-- **The writing ends**: it has added the text to the page, and the stack is as it was. -/
def Adds (writing : Nat → Writing Unit) (page : Page) (text : List Char) : Prop :=
  Arrives writing page () (page.add text)

variable {s : Store} {page : Page} {writing : Nat → Writing Unit} {text : List Char}

theorem adds_add (page : Page) (text : List Char) : Adds (fun _ => add text) page text :=
  .flat (add_apply page text)

/-- What is written first is in front of what is written then. -/
theorem Adds.andThen (adds : Adds writing page text) {next : Nat → Writing Unit} {more : List Char}
    (others : Adds next (page.add text) more) :
    Adds (fun depth => do writing depth; next depth) page (text ++ more) := by
  rw [Adds, ← Page.add_add]
  exact adds.bind others

/-- Inside of the container, there are dots, and nothing is entered. -/
theorem adds_dots {container : Identity} (again : container ∈ page.inside)
    (opening closing : Char) :
    Adds (fun depth => within container opening closing (writing depth)) page
      [opening, '.', '.', '.', closing] := by
  refine ⟨0, fun depth _ => ?_⟩
  change within container opening closing _ page = _
  rw [within, StateT.bind_of_some (isInside_apply page container),
    if_pos (List.contains_iff_mem.mpr again), add_apply]

/-- **A container that is entered is left**: what has been written in it stays on the page. -/
theorem Adds.within {container : Identity} {opening : Char} (fresh : container ∉ page.inside)
    (adds : Adds writing ((page.enter container).add [opening]) text) (closing : Char) :
    Adds (fun depth => within container opening closing (writing depth)) page
      (opening :: text ++ [closing]) := by
  obtain ⟨least, written⟩ := adds
  refine ⟨least, fun depth enough => ?_⟩
  change Writing.within container opening closing _ page = _
  rw [Writing.within, StateT.bind_of_some (isInside_apply page container),
    if_neg (mt List.contains_iff_mem.mp fresh), StateT.bind_of_some (enter_apply page container),
    StateT.bind_of_some (add_apply _ [opening]), StateT.bind_of_some (written depth enough),
    Page.add_add, StateT.bind_of_some (leave_apply _), Page.leave_add_enter, add_apply,
    Page.add_add]
  rfl

variable (s)

/-- Without items, nothing is written. -/
theorem adds_no_items {vs : List Value} (empty : vs = []) {first : Bool} (page : Page) :
    Adds (fun depth => items (value s depth) first vs) page [] := by
  subst empty
  refine ⟨0, fun _ _ => ?_⟩
  rw [Page.add_nil]
  rfl

theorem adds_no_entries {es : List Entry} (empty : es = []) {first : Bool} (page : Page) :
    Adds (fun depth => entries (value s depth) first es) page [] := by
  subst empty
  refine ⟨0, fun _ _ => ?_⟩
  rw [Page.add_nil]
  rfl

mutual

/-- **The writing of a value ends.** It has added the text of the value to the page, and given the
stack back. -/
theorem value_eq (v : Value) (page : Page) :
    Adds (value s · v) page (s.reprInside page.inside v) := by
  cases v with
  | null | int | float | str | range | reversed | reversedRange | enumerate | zip =>
    rw [Store.reprInside]
    exact (adds_add page _).deeper fun _ => rfl
  | bool id b =>
    cases b <;> rw [Store.reprInside] <;> exact (adds_add page _).deeper fun _ => rfl
  | list place =>
    rw [Store.reprInside]
    refine Arrives.deeper ?_ fun _ => rfl
    by_cases again : .list place ∈ page.inside
    · rw [if_pos again]
      exact adds_dots again '[' ']'
    rw [if_neg again]
    by_cases known : place < s.lists.size
    · rw [dif_pos known, ← joined_true]
      exact (items_eq true _ _).within again ']'
    -- a list outside the store is entered, too, and left without items
    · rw [dif_neg known]
      exact (adds_no_items s (Store.items_eq_nil known) _).within again ']'
  | dict place =>
    rw [Store.reprInside]
    refine Arrives.deeper ?_ fun _ => rfl
    by_cases again : .dict place ∈ page.inside
    · rw [if_pos again]
      exact adds_dots again '{' '}'
    rw [if_neg again]
    by_cases known : place < s.dicts.size
    · rw [dif_pos known, ← joined_true]
      exact (entries_eq true _ _).within again '}'
    · rw [dif_neg known]
      exact (adds_no_entries s (Store.entries_eq_nil known) _).within again '}'
  | tuple id elements =>
    rw [Store.reprInside, ← joined_true, ← List.singleton_append, List.append_assoc]
    refine Arrives.deeper ?_ fun _ => rfl
    exact (adds_add page ['(']).andThen ((items_eq true elements _).andThen (adds_add _ _))
termination_by (outside s.containers page.inside, sizeOf v)
decreasing_by
  · exact Prod.Lex.left _ _ (outside_cons_lt (Store.list_mem_containers known) again)
  · exact Prod.Lex.left _ _ (outside_cons_lt (Store.dict_mem_containers known) again)
  · exact Prod.Lex.right _ (by simp +arith)

theorem items_eq (first : Bool) (vs : List Value) (page : Page) :
    Adds (fun depth => items (value s depth) first vs) page
      (joined first (s.reprItems page.inside vs)) := by
  match vs with
  | [] =>
    rw [Store.reprItems, joined]
    exact adds_no_items s rfl page
  | v :: rest =>
    rw [Store.reprItems, joined, List.append_assoc]
    exact (adds_add page _).andThen ((value_eq v _).andThen (items_eq false rest _))
termination_by (outside s.containers page.inside, sizeOf vs)
decreasing_by
  all_goals exact Prod.Lex.right _ (by simp +arith)

theorem entries_eq (first : Bool) (es : List Entry) (page : Page) :
    Adds (fun depth => entries (value s depth) first es) page
      (joined first (s.reprEntries page.inside es)) := by
  match es with
  | [] =>
    rw [Store.reprEntries, joined]
    exact adds_no_entries s rfl page
  | e :: rest =>
    rw [Store.reprEntries, joined, List.append_assoc, List.append_assoc]
    exact (adds_add page _).andThen ((value_eq e.key _).andThen
      ((adds_add _ [':', ' ']).andThen ((value_eq e.value _).andThen (entries_eq false rest _))))
termination_by (outside s.containers page.inside, sizeOf es)
decreasing_by
  · exact Prod.Lex.right _ (by cases e; simp +arith)
  · exact Prod.Lex.right _ (by cases e; simp +arith)
  · exact Prod.Lex.right _ (by simp +arith)

end

/-- From an empty page, the writing of a value arrives at its text and an empty stack. -/
theorem arrives_repr (v : Value) : Arrives (value s · v) ⟨[], []⟩ () ⟨s.repr v, []⟩ :=
  value_eq s v ⟨[], []⟩

end Writing

/-! ### Comparing -/

/-- **Comparing with a stack** of the pairs of containers that the comparison is inside of. It is
aborted where it would go too deep. -/
abbrev Matching := StateT (List ContainerPair) Option

namespace Matching

/-- Compares what a pair of containers holds, unless the comparison is inside of the pair. -/
def nested (pair : ContainerPair) (held : Matching Bool) : Matching Bool := do
  if (← get).contains pair then return true
  else
    modify (pair :: ·)
    let equal ← held
    modify List.tail
    return equal

/-- Compares items as long as there are items in both sequences, up to the first different ones. -/
def items (same : Value → Value → Matching Bool) : List Value → List Value → Matching Bool
  | x :: xs, y :: ys => do
    if ← same x y then items same xs ys else return false
  | _, _ => pure true

/-- Compares two sequences, their lengths first. -/
def sequences (same : Value → Value → Matching Bool) (xs ys : List Value) : Matching Bool :=
  if xs.length = ys.length then items same xs ys else pure false

/-- Compares the values of entries with those that another dict has for their keys. -/
def entries (same : Value → Value → Matching Bool) (other : Dict) : List Entry → Matching Bool
  | [] => pure true
  | e :: rest =>
    match other.get? e.key with
    | .ok (some theirs) => do
      if ← same e.value theirs then entries same other rest else return false
    | _ => pure false

/-- Compares two dicts, their lengths first. -/
def dicts (same : Value → Value → Matching Bool) (d other : Dict) : Matching Bool :=
  if d.length = other.length then entries same other d.entries else pure false

/-- **Compares two values.** -/
def values (s : Store) : Nat → Value → Value → Matching Bool
  | 0, _, _ => fun _ => none
  | depth + 1, left, right =>
    match Number.of? left, Number.of? right with
    | some a, some b => pure (a.order? b = some .eq)
    | _, _ =>
      match left, right with
      | .null _, .null _ => pure true
      | .str _ a, .str _ b => pure (a = b)
      | .list i, .list j =>
        if i = j then pure true
        else nested (.lists i j)
          (sequences (values s depth) (s.items i).toList (s.items j).toList)
      | .tuple _ xs, .tuple _ ys => sequences (values s depth) xs ys
      | .dict i, .dict j =>
        if i = j then pure true
        else nested (.dicts i j) (dicts (values s depth) (s.contents i) (s.contents j))
      | .range _ a, .range _ b => pure (a.sameElements b)
      | .reversed i _, .reversed j _ | .reversed i _, .reversedRange j _
      | .reversedRange i _, .reversed j _ | .reversedRange i _, .reversedRange j _
      | .enumerate i _ _, .enumerate j _ _ | .zip i _, .zip j _ => pure (i = j)
      | _, _ => pure false

/-! ### What has been found out -/

/-- **The comparison ends**: it has found out whether there is equality, and the stack is as it
was. -/
def Finds (matching : Nat → Matching Bool) (active : List ContainerPair) (equal : Bool) : Prop :=
  Arrives matching active equal active

variable {s : Store} {active : List ContainerPair} {pair : ContainerPair}
  {matching : Nat → Matching Bool} {equal : Bool}

theorem finds_pure (active : List ContainerPair) (equal : Bool) :
    Finds (fun _ => pure equal) active equal :=
  .flat rfl

/-- What comes next is looked at only behind something equal. -/
theorem Finds.andThen (finds : Finds matching active equal) {next : Nat → Matching Bool}
    {others : Bool} (later : Finds next active others) :
    Finds (fun depth => do if ← matching depth then next depth else return false) active
      (equal && others) := by
  refine Arrives.bind finds ?_
  cases equal with
  | false => exact finds_pure active false
  | true => exact later

theorem get_apply (active : List ContainerPair) :
    (get : Matching (List ContainerPair)) active = some (active, active) := rfl

/-- A pair that the comparison is inside of is not entered again. -/
theorem finds_again (again : pair ∈ active) :
    Finds (fun depth => nested pair (matching depth)) active true := by
  refine ⟨0, fun depth _ => ?_⟩
  change nested pair _ active = _
  rw [nested, StateT.bind_of_some (get_apply active), if_pos (List.contains_iff_mem.mpr again)]
  rfl

/-- **A pair that is entered is left**, whatever has been found out about it. -/
theorem Finds.nested (fresh : pair ∉ active) (finds : Finds matching (pair :: active) equal) :
    Finds (fun depth => nested pair (matching depth)) active equal := by
  obtain ⟨least, found⟩ := finds
  refine ⟨least, fun depth enough => ?_⟩
  have entered : (modify (pair :: ·) : Matching Unit) active = some ((), pair :: active) := rfl
  have left : (modify List.tail : Matching Unit) (pair :: active) = some ((), active) := rfl
  change Matching.nested pair _ active = _
  rw [Matching.nested, StateT.bind_of_some (get_apply active),
    if_neg (mt List.contains_iff_mem.mp fresh), StateT.bind_of_some entered,
    StateT.bind_of_some (found depth enough), StateT.bind_of_some left]
  rfl

/-- Sequences of different lengths are different. -/
theorem finds_sequences {xs ys : List Value}
    (found : xs.length = ys.length → Finds (fun depth => items (values s depth) xs ys) active
      (s.equalItems active xs ys)) :
    Finds (fun depth => sequences (values s depth) xs ys) active (s.equalItems active xs ys) := by
  by_cases same : xs.length = ys.length
  · simpa only [sequences, if_pos same] using found same
  · have unequal : s.equalItems active xs ys = false :=
      Bool.eq_false_iff.mpr fun equal => same (Store.equalItems_iff.mp equal).length_eq
    simpa only [sequences, if_neg same, unequal] using finds_pure active false

/-- Without items in one of them, two sequences are compared by their lengths. -/
theorem finds_no_items {xs ys : List Value} (empty : xs = [] ∨ ys = []) :
    Finds (fun depth => sequences (values s depth) xs ys) active (xs.isEmpty && ys.isEmpty) := by
  rcases empty with rfl | rfl
  · cases ys <;> exact finds_pure active _
  · cases xs <;> exact finds_pure active _

/-- Without entries in one of them, two dicts are compared by their lengths. -/
theorem finds_no_entries {d other : Dict} (empty : d.entries = [] ∨ other.entries = []) :
    Finds (fun depth => dicts (values s depth) d other) active
      (d.entries.isEmpty && other.entries.isEmpty) := by
  obtain ⟨first, distinct⟩ := d
  obtain ⟨second, distinct'⟩ := other
  rcases empty with empty | empty <;> cases empty
  · cases second <;> exact finds_pure active _
  · cases first <;> exact finds_pure active _

/-- Two lists are the same one, or their pair is entered. -/
theorem values_lists {i j : Nat} (differ : i ≠ j) (depth : Nat) :
    values s (depth + 1) (.list i) (.list j) = nested (.lists i j)
      (sequences (values s depth) (s.items i).toList (s.items j).toList) :=
  if_neg differ

theorem values_dicts {i j : Nat} (differ : i ≠ j) (depth : Nat) :
    values s (depth + 1) (.dict i) (.dict j) = nested (.dicts i j)
      (dicts (values s depth) (s.contents i) (s.contents j)) :=
  if_neg differ

variable (s)

mutual

/-- **The comparison of two values ends.** It has found out whether they are equal, and given the
stack back. -/
theorem values_eq (left right : Value) (active : List ContainerPair) :
    Finds (values s · left right) active (s.equalInside active left right) := by
  fun_cases Store.equalInside s active left right with
  | case1 left right a b second first =>
    refine (finds_pure active _).deeper fun depth => ?_
    simp only [values.eq_def, first, second]
  | case4 id xs id' ys =>
    refine Arrives.deeper ?_ fun _ => rfl
    exact finds_sequences fun same => items_eq xs ys same active
  | case5 i j known =>
    by_cases same : i = j
    · exact (finds_pure active true).deeper fun _ => congrFun (if_pos same) active
    · refine Arrives.deeper ?_ fun depth => congrFun (values_lists same depth) active
      exact finds_again (known.resolve_left same)
  | case6 i j new inside =>
    refine Arrives.deeper ?_ fun depth => congrFun (values_lists (mt .inl new) depth) active
    exact (finds_sequences fun same => items_eq _ _ same _).nested (mt .inr new)
  | case7 i j new outside =>
    refine Arrives.deeper ?_ fun depth => congrFun (values_lists (mt .inl new) depth) active
    rw [← Array.isEmpty_toList, ← Array.isEmpty_toList]
    refine (finds_no_items ?_).nested (mt .inr new)
    exact (Decidable.not_and_iff_not_or_not.mp outside).imp Store.items_eq_nil Store.items_eq_nil
  | case8 i j known =>
    by_cases same : i = j
    · exact (finds_pure active true).deeper fun _ => congrFun (if_pos same) active
    · refine Arrives.deeper ?_ fun depth => congrFun (values_dicts same depth) active
      exact finds_again (known.resolve_left same)
  | case9 i j new inside =>
    refine Arrives.deeper ?_ fun depth => congrFun (values_dicts (mt .inl new) depth) active
    refine Finds.nested (mt .inr new) ?_
    by_cases same : (s.contents i).length = (s.contents j).length
    · simp only [dicts, if_pos same, decide_eq_true same, Bool.true_and]
      exact entries_eq _ _ _
    · simp only [dicts, if_neg same, decide_eq_false same, Bool.false_and]
      exact finds_pure _ false
  | case10 i j new outside =>
    refine Arrives.deeper ?_ fun depth => congrFun (values_dicts (mt .inl new) depth) active
    refine (finds_no_entries ?_).nested (mt .inr new)
    exact (Decidable.not_and_iff_not_or_not.mp outside).imp Store.entries_eq_nil
      Store.entries_eq_nil
  | case18 left right numbers =>
    refine (finds_pure active false).deeper fun depth => ?_
    rw [values]
    · cases first : Number.of? left with
      | none => rfl
      | some a =>
        cases second : Number.of? right with
        | none => rfl
        | some b => exact (numbers a b first second).elim
    all_goals assumption
  | _ => exact (finds_pure active _).deeper fun _ => rfl
termination_by (outside s.containerPairs active, sizeOf left)
decreasing_by
  · exact Prod.Lex.right _ (by subst_vars; simp +arith)
  · exact Prod.Lex.left _ _ (outside_cons_lt
      (Store.mem_containerPairs_lists inside.1 inside.2) (mt .inr new))
  · exact Prod.Lex.left _ _ (outside_cons_lt
      (Store.mem_containerPairs_dicts inside.1 inside.2) (mt .inr new))

theorem items_eq (xs ys : List Value) (same : xs.length = ys.length)
    (active : List ContainerPair) :
    Finds (fun depth => items (values s depth) xs ys) active (s.equalItems active xs ys) := by
  match xs, ys, same with
  | [], [], _ =>
    rw [Store.equalItems]
    exact finds_pure active true
  | x :: xs, y :: ys, same =>
    rw [Store.equalItems]
    exact (values_eq x y active).andThen (items_eq xs ys (Nat.succ.inj same) active)
termination_by (outside s.containerPairs active, sizeOf xs)
decreasing_by
  all_goals exact Prod.Lex.right _ (by simp +arith)

theorem entries_eq (other : Dict) (es : List Entry) (active : List ContainerPair) :
    Finds (fun depth => entries (values s depth) other es) active
      (s.equalEntries active es other) := by
  match es with
  | [] =>
    rw [Store.equalEntries]
    exact finds_pure active true
  | e :: rest =>
    have got : other.get? e.key = .ok (other.valueAt? e.slot) := by
      rw [Dict.get?, e.hashed, Except.map]
    simp only [entries, Store.equalEntries, got]
    cases other.valueAt? e.slot with
    | none => exact finds_pure active false
    | some theirs => exact (values_eq e.value theirs active).andThen (entries_eq other rest active)
termination_by (outside s.containerPairs active, sizeOf es)
decreasing_by
  · exact Prod.Lex.right _ (by cases e; simp +arith)
  · exact Prod.Lex.right _ (by simp +arith)

end

/-- From an empty stack, the comparison of two values arrives at an empty one. -/
theorem arrives_equal (left right : Value) :
    Arrives (values s · left right) [] (s.equal left right) [] :=
  values_eq s left right []

end Matching

end CallConsole
