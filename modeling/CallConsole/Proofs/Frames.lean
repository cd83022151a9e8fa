/-
**What operations leave as it is.**

Only three operations change an object: appending to a list, assigning to a list or dict, and
inserting into a dict. They change the object that they are applied to and no other one; everything
else makes new objects at most. A copy of a container is one of these new objects, so neither of the
two takes part in what happens to the other:

* `Builtin.invoke_grows`, `Machine.step_grows`: where nothing is there to be changed, nothing
  changes, in no store and with no arguments;
* `Mutation.ends`, `World.holding_after`: an operation changes its target at most, and what an
  object holds after some of them is what those that were applied to it have made of it;
* `Copying.fresh`: a copy was not there before, and holds the objects that its source holds;
* `no_hidden_effects`: all of this together.
-/

import CallConsole.Proofs.CursorRuns
import CallConsole.Proofs.Runs

namespace CallConsole

/-! ### What an object holds -/

/-- What an object holds that can change. -/
inductive Holding where
  /-- The items of a list. -/
  | items (vs : Array Value)
  /-- The entries of a dict. -/
  | entries (d : Dict)
  /-- All other objects stay what they are. -/
  | nothing

namespace Store

variable {s s' : Store} {x : Identity}

/-- What the object holds. -/
def holding (s : Store) : Identity → Holding
  | .list place => .items (s.items place)
  | .dict place => .entries (s.contents place)
  | .object _ => .nothing

/-- The object has been made. -/
def HasObject (s : Store) : Identity → Prop
  | .list place => place < s.lists.size
  | .dict place => place < s.dicts.size
  | .object id => id < s.next

theorem Extends.hasObject (more : s.Extends s') (there : s.HasObject x) : s'.HasObject x := by
  cases x with
  | list place => exact Nat.lt_of_lt_of_le there more.lists
  | dict place => exact Nat.lt_of_lt_of_le there more.dicts
  | object id => exact Nat.lt_of_lt_of_le there more.next

/-- **What is there goes on to hold what it holds** while the store grows. -/
theorem Grows.holding_eq (grows : s.Grows s') (there : s.HasObject x) :
    s'.holding x = s.holding x := by
  cases x with
  | list place => rw [holding, holding, grows.items_eq there]
  | dict place => rw [holding, holding, grows.contents_eq there]
  | object id => rfl

/-- A change of a list is one of that list, and of no other object. -/
theorem holding_changeList_self {place : Nat} (there : s.HasObject (.list place))
    (change : Array Value → Array Value) :
    (s.changeList place change).holding (.list place) = .items (change (s.items place)) := by
  rw [holding, items_changeList, if_pos ⟨rfl, there⟩]

theorem holding_changeList_of_ne {place : Nat} (other : x ≠ .list place)
    (change : Array Value → Array Value) :
    (s.changeList place change).holding x = s.holding x := by
  cases x with
  | list place' =>
    rw [holding, items_changeList, if_neg fun both => other (congrArg Identity.list both.1)]
    rfl
  | dict | object => rfl

theorem holding_replaceDict_self {place : Nat} (there : s.HasObject (.dict place)) (d : Dict) :
    (s.replaceDict place d).holding (.dict place) = .entries d := by
  rw [holding, contents_replaceDict, if_pos ⟨rfl, there⟩]

theorem holding_replaceDict_of_ne {place : Nat} (other : x ≠ .dict place) (d : Dict) :
    (s.replaceDict place d).holding x = s.holding x := by
  cases x with
  | dict place' =>
    rw [holding, contents_replaceDict, if_neg fun both => other (congrArg Identity.dict both.1)]
    rfl
  | list | object => rfl

theorem hasObject_changeList (s : Store) (place : Nat) (change : Array Value → Array Value)
    (x : Identity) : (s.changeList place change).HasObject x ↔ s.HasObject x := by
  cases x with
  | list other => rw [HasObject, changeList, Array.size_modify, HasObject]
  | dict | object => rfl

theorem hasObject_replaceDict (s : Store) (place : Nat) (d : Dict) (x : Identity) :
    (s.replaceDict place d).HasObject x ↔ s.HasObject x := by
  cases x with
  | dict other => rw [HasObject, replaceDict, Array.size_modify, HasObject]
  | list | object => rfl

end Store

/-! ### Operations that change an object -/

/-- An operation that is there to change an object. -/
inductive Mutation where
  | append (on v : Value)
  | assign (on index v : Value)
  | insert (place : Nat) (key v : Value)

namespace Mutation

/-- The object that the operation is applied to. -/
def target : Mutation → Identity
  | append on _ | assign on _ _ => on.identity
  | insert place _ _ => .dict place

/-- The operation. -/
def act : Mutation → Action Unit
  | append on v => Action.append on v
  | assign on index v => Action.setItem on index v
  | insert place key v => (fun _ => ()) <$> Action.insert place key v

/-- The operation in a world. -/
def run (change : Mutation) : Run Unit := Run.act change.act

/-- **What the operation makes of what its target holds**: the same if it fails. -/
def effect : Mutation → Holding → Holding
  | append _ v, .items vs => .items (vs.push v)
  | assign _ index v, .items vs =>
    match position .listAssignment vs.size index with
    | .error _ => .items vs
    | .ok slot => .items (vs.setIfInBounds slot v)
  | assign _ key v, .entries d | insert _ key v, .entries d =>
    match d.insert key v with
    | .error _ _ => .entries d
    | .ok _ changed => .entries changed
  | _, held => held

variable {w : World}

/-- **How an operation can end**: it fails and leaves the world as it was, or its target is a list
or a dict that it has changed. -/
inductive Ends (change : Mutation) (w : World) : Except Failure Unit × World → Prop
  | failed (failure : Failure) :
      change.effect (w.store.holding change.target) = w.store.holding change.target →
      Ends change w (.error failure, w)
  | list {place : Nat} (f : Array Value → Array Value) : change.target = .list place →
      change.effect (.items (w.store.items place)) = .items (f (w.store.items place)) →
      Ends change w (.ok (), { w with store := w.store.changeList place f })
  | dict {place : Nat} (d : Dict) : change.target = .dict place →
      change.effect (.entries (w.store.contents place)) = .entries d →
      Ends change w (.ok (), { w with store := w.store.replaceDict place d })

theorem ends_of_error {change : Mutation} {cause : Cause}
    (acted : change.act w.store = .error cause w.store)
    (same : change.effect (w.store.holding change.target) = w.store.holding change.target) :
    change.Ends w (change.run.outcome w) := by
  have ran : change.run.outcome w = (.error (.ofCause cause), w) := Run.outcome_act_of_error acted
  exact ran ▸ .failed _ same

/-- An assignment to a list ends with the item in its place, or fails at the position. -/
theorem assign_ends_list (w : World) (place : Nat) (index v : Value) :
    (assign (.list place) index v).Ends w ((assign (.list place) index v).run.outcome w) := by
  cases found : position .listAssignment (w.store.items place).size index with
  | error cause =>
    have acted : act (.assign (.list place) index v) w.store = .error cause w.store :=
      EStateM.bind_of_error (Action.tryRead_of_error found) _
    exact ends_of_error acted (by simp only [target, Value.identity, Store.holding, effect, found])
  | ok slot =>
    have acted : act (.assign (.list place) index v) w.store =
        .ok () (w.store.changeList place (·.setIfInBounds slot v)) :=
      EStateM.bind_of_ok (Action.tryRead_of_ok found) _
    rw [run, Run.outcome_act_of_ok acted]
    exact .list _ rfl (by simp only [effect, found])

/-- An operation that inserts into a dict ends with the key inserted, or fails at the key. -/
theorem ends_of_insert {change : Mutation} {place : Nat} (on : change.target = .dict place)
    {key v : Value} (inserts : change.act = act (.insert place key v))
    (makes : ∀ d, change.effect (.entries d) = effect (.insert place key v) (.entries d)) :
    change.Ends w (change.run.outcome w) := by
  cases hashed : Slot.of? key with
  | error cause =>
    have acted : change.act w.store = .error cause w.store :=
      inserts ▸ EStateM.map_of_error (Action.insert_of_error w.store place hashed v) _
    refine ends_of_error acted ?_
    rw [on, Store.holding, makes, effect, (w.store.contents place).insert_of_error hashed v]
  | ok slot =>
    have acted : (act (.insert place key v)) w.store = _ :=
      EStateM.map_of_ok (Action.insert_of_ok w.store place hashed v) _
    rw [run, inserts, Run.outcome_act_of_ok acted]
    refine .dict _ on ?_
    rw [makes, effect, (w.store.contents place).insert_of_ok hashed v]

theorem ends (change : Mutation) (w : World) : change.Ends w (change.run.outcome w) := by
  cases change with
  | append on v =>
    cases on with
    | list place => exact .list (·.push v) rfl rfl
    | _ => exact .failed _ rfl
  | assign on index v =>
    cases on with
    | list place => exact assign_ends_list w place index v
    | dict place =>
      exact ends_of_insert rfl (map_eq_pure_bind _ (Action.insert place index v)).symm fun _ => rfl
    | _ => exact .failed _ rfl
  | insert place key v => exact ends_of_insert rfl rfl fun _ => rfl

theorem Ends.of_error {change : Mutation} {reached : Except Failure Unit × World}
    (ended : change.Ends w reached) {failure : Failure} (failed : reached.1 = .error failure) :
    reached.2 = w := by
  cases ended with
  | failed => rfl
  | list | dict => cases failed

/-- The target then holds what the operation has made of it. -/
theorem Ends.holding_target {change : Mutation} {reached : Except Failure Unit × World}
    (ended : change.Ends w reached) (there : w.store.HasObject change.target) :
    reached.2.store.holding change.target =
      change.effect (w.store.holding change.target) := by
  cases ended with
  | failed _ same => exact same.symm
  | list f on made =>
    rw [on] at there ⊢
    exact (Store.holding_changeList_self there f).trans made.symm
  | dict d on made =>
    rw [on] at there ⊢
    exact (Store.holding_replaceDict_self there d).trans made.symm

/-- **No other object changes.** -/
theorem Ends.holding_of_ne {change : Mutation} {reached : Except Failure Unit × World}
    (ended : change.Ends w reached) {x : Identity} (other : x ≠ change.target) :
    reached.2.store.holding x = w.store.holding x := by
  cases ended with
  | failed => rfl
  | list f on => exact Store.holding_changeList_of_ne (on ▸ other) f
  | dict d on => exact Store.holding_replaceDict_of_ne (on ▸ other) d

/-- No object is made, and none is lost. -/
theorem Ends.hasObject_iff {change : Mutation} {reached : Except Failure Unit × World}
    (ended : change.Ends w reached) (x : Identity) :
    reached.2.store.HasObject x ↔ w.store.HasObject x := by
  cases ended with
  | failed => exact Iff.rfl
  | list => exact Store.hasObject_changeList ..
  | dict => exact Store.hasObject_replaceDict ..

end Mutation

namespace World

/-- The world after operations, whether they succeed or fail. -/
def after (w : World) : List Mutation → World
  | [] => w
  | change :: later => (change.run.outcome w).2.after later

/-- **An object holds what the operations that were applied to it have made** of what it held. -/
theorem holding_after {w : World} {x : Identity} (there : w.store.HasObject x)
    (later : List Mutation) : (w.after later).store.holding x =
      (later.filter (·.target = x)).foldl (fun held change => change.effect held)
        (w.store.holding x) := by
  induction later generalizing w with
  | nil => rfl
  | cons change later ih =>
    rw [after, ih (((change.ends w).hasObject_iff x).mpr there), List.filter_cons]
    by_cases same : change.target = x
    · subst same
      rw [(change.ends w).holding_target there, if_pos (decide_eq_true rfl), List.foldl_cons]
    · rw [(change.ends w).holding_of_ne (Ne.symm same), if_neg (by simpa using same)]

/-- Operations on other objects leave the object as it is. -/
theorem holding_after_of_ne {w : World} {x : Identity} (there : w.store.HasObject x)
    {later : List Mutation} (others : ∀ change ∈ later, change.target ≠ x) :
    (w.after later).store.holding x = w.store.holding x := by
  have none : later.filter (·.target = x) = [] :=
    List.filter_eq_nil_iff.mpr fun change member => by simpa using others change member
  rw [holding_after there, none, List.foldl_nil]

end World

/-! ### Everything else -/

namespace Trait

mutual

/-- Every cursor is one of values with the trait that every value has. -/
theorem any_ofCursor (s : Store) (c : Cursor) : any.OfCursor s c := by
  cases c with
  | live place index => exact .live index trivial
  | fixed items => exact .fixed (any_all s items)
  | chars text => exact .chars text
  | forward r index => exact .forward r index
  | backward r remaining => exact .backward r remaining
  | numbered source index => exact .numbered index (any_ofCursor s source)
  | rows sources => exact .rows (any_ofCursors s sources)

theorem any_ofCursors (s : Store) (cs : List Cursor) : ∀ c ∈ cs, any.OfCursor s c := by
  cases cs with
  | nil => exact List.forall_mem_nil _
  | cons c rest => exact List.forall_mem_cons.mpr ⟨any_ofCursor s c, any_ofCursors s rest⟩

end

theorem any_ofMachine (m : Machine) : any.OfMachine m :=
  ⟨any_sound _, fun _ _ => trivial, fun _ _ => any_ofCursor _ _⟩

end Trait

/-- **A call changes nothing that is there**, whatever the function and the arguments are, and
whether it succeeds or fails. -/
theorem Builtin.invoke_grows (w : World) (name : String) (arguments : List Value) :
    w.store.Grows ((Builtin.invoke name arguments).outcome w).2.store := by
  have safe := invoke_safe (Trait.any_sound w.store) name (Trait.any_all w.store arguments)
  unfold Run.Safe at safe
  unfold Run.outcome
  cases ran : invoke name arguments w with
  | ok v w' =>
    rw [ran] at safe
    exact safe.1.grows
  | error failure w' =>
    rw [ran] at safe
    exact safe.grows

/-- **A step that is not there to change something changes nothing.** -/
theorem Machine.step_grows (m : Machine) {step : Step} (unchanged : step.changed? = none) :
    m.world.store.Grows (m.step step).2.world.store :=
  have held := Trait.any_ofMachine m
  (step_moves held step).store_grows held unchanged

/-! ### New containers -/

namespace Store

/-- The objects that a list, tuple or dict yields: its items or keys. -/
def objects? (s : Store) : Value → Option (List Value)
  | .list place => some (s.items place).toList
  | .tuple _ items => some items
  | .dict place => some (s.contents place).keys
  | _ => none

/-- **The value is a new container**, and it holds what is described. -/
structure Fresh (s : Store) (holds : Holding → Prop) (s' : Store) (v : Value) : Prop where
  absent : ¬ s.HasObject v.identity
  present : s'.HasObject v.identity
  holding : holds (s'.holding v.identity)

variable {s s' : Store} {holds : Holding → Prop}

theorem fresh_createList (grows : s.Grows s') {vs : List Value} (held : holds (.items vs.toArray)) :
    s.Fresh holds (s'.createList vs).2 (s'.createList vs).1 where
  absent := Nat.not_lt.mpr grows.covers.lists
  present := Nat.lt_of_lt_of_eq (Nat.lt_succ_self _) (Array.size_push ..).symm
  holding := by
    show holds (.items ((s'.createList vs).2.items s'.lists.size))
    rwa [items_createList, if_pos rfl]

theorem fresh_createDict (grows : s.Grows s') {d : Dict} (held : holds (.entries d)) :
    s.Fresh holds (s'.createDict d).2 (s'.createDict d).1 where
  absent := Nat.not_lt.mpr grows.covers.dicts
  present := Nat.lt_of_lt_of_eq (Nat.lt_succ_self _) (Array.size_push ..).symm
  holding := by
    show holds (.entries ((s'.createDict d).2.contents s'.dicts.size))
    rwa [contents_createDict, if_pos rfl]

end Store

/-- A cursor in given items passes all of them. -/
theorem Cursor.drain_fixed (s : Store) (vs : List Value) :
    (Cursor.fixed vs).drain s = vs.map .object := by
  rw [drain_eq, ahead]

/-- A cursor at the start of a list passes all of its items. -/
theorem Cursor.drain_live (s : Store) (place : Nat) :
    (Cursor.live place 0).drain s = (s.items place).toList.map .object := by
  rw [drain_eq, ahead, List.drop_zero]

namespace Action

variable {s : Store} {v : Value}

/-- **The elements of a value are what its cursor passes**, as objects. -/
theorem elements_of_cursor {c : Cursor} (opened : s.cursor v = .ok c) :
    elements v s = .ok (Item.createAll s (c.drain s)).1 (Item.createAll s (c.drain s)).2 :=
  EStateM.bind_of_ok (tryRead_of_ok opened) _

/-- What has no cursor has no elements. -/
theorem exists_cursor_of_elements {vs : List Value} {s' : Store}
    (taken : elements v s = .ok vs s') : ∃ c, s.cursor v = .ok c := by
  obtain ⟨c, _, started, _⟩ := EStateM.exists_of_bind_ok taken
  exact ⟨c, (ok_of_tryRead started).1⟩

/-- A value whose elements can be taken passes the check that it can be traversed. -/
theorem expectIterable_of_elements {vs : List Value} {s' : Store}
    (taken : elements v s = .ok vs s') (function : String) :
    expectIterable function v s = .ok () s := by
  obtain ⟨c, opened⟩ := exists_cursor_of_elements taken
  cases v with
  | null | bool | int | float => cases opened
  | _ => rfl

/-- **The elements of a list, tuple or dict are the objects themselves.** -/
theorem elements_objects {vs : List Value} (found : s.objects? v = some vs) :
    elements v s = .ok vs s := by
  cases v with
  | list place =>
    cases found
    rw [elements_of_cursor rfl, Cursor.drain_live, Item.createAll_objects]
  | tuple id items =>
    cases found
    rw [elements_of_cursor rfl, Cursor.drain_fixed, Item.createAll_objects]
  | dict place =>
    cases found
    rw [elements_of_cursor rfl, Cursor.drain_fixed, Item.createAll_objects]
  | _ => cases found

theorem safe_objects (s : Store) (v : Value) :
    Safe Trait.any s (elements v) fun _ items => ∀ vs, s.objects? v = some vs → items = vs where
  ok ran := by
    refine ⟨((safe_elements (Trait.any_sound s) trivial).ok ran).1, fun vs found => ?_⟩
    cases (elements_objects found).symm.trans ran
    rfl
  error ran := (safe_elements (Trait.any_sound s) trivial).error ran

end Action

/-- An operation that makes a new container of what others hold. -/
inductive Copying where
  /-- `list(v)` -/
  | list (v : Value)
  /-- `sorted(v)`, with further arguments -/
  | sorted (v : Value) (flags : List Value)
  /-- `dict(d)` of a dict -/
  | dict (place : Nat)
  /-- `left + right` of lists -/
  | add (left right : Nat)

namespace Copying

/-- What the operation is applied to. -/
def sources : Copying → List Value
  | list v | sorted v _ => [v]
  | dict place => [.dict place]
  | add left right => [.list left, .list right]

/-- The operation. -/
def run : Copying → Run Value
  | list v => Builtin.invoke "list" [v]
  | sorted v flags => Builtin.invoke "sorted" (v :: flags)
  | dict place => Builtin.invoke "dict" [.dict place]
  | add left right => Run.act (Action.add (.list left) (.list right))

/-- **What the new container holds**, by what the sources hold in the store. -/
def Holds (s : Store) : Copying → Holding → Prop
  | list v, held => ∃ vs : List Value, held = .items vs.toArray ∧
      ∀ objects, s.objects? v = some objects → vs = objects
  | sorted v _, held => ∃ vs : List Value, held = .items vs.toArray ∧
      ∀ objects, s.objects? v = some objects → vs.Perm objects
  | dict place, held => held = .entries (s.contents place)
  | add left right, held => held = .items (s.items left ++ s.items right)

/-- What the operation does in the store. -/
def act : Copying → Action Value
  | list v => Builtin.body .list [v]
  | sorted v flags => Builtin.body .sorted (v :: flags)
  | dict place => Builtin.body .dict [.dict place]
  | add left right => Action.add (.list left) (.list right)

end Copying

namespace Builtin

open CallConsole.Action

/-- To expect something of an argument does nothing. -/
theorem expectIterable_same (s : Store) (function : String) (v : Value) :
    Safe Trait.any s (expectIterable function v) fun s' _ => s' = s := by
  unfold expectIterable
  split
  · exact safe_pure (Trait.any_sound s) rfl
  · exact safe_fail (Trait.any_sound s) _

theorem listOf_fresh (s : Store) (v : Value) :
    Safe Trait.any s (listOf v) (s.Fresh ((Copying.list v).Holds s)) := by
  refine (expectIterable_same s "list" v).bind ?_
  rintro _ _ _ rfl
  refine (safe_objects _ v).bind fun items s₁ growth same => ?_
  exact safe_make ⟨.createList growth.sound (Trait.any_all _ _),
    Store.fresh_createList growth.grows ⟨items, rfl, same⟩⟩

theorem sortedOf_fresh (s : Store) (v : Value) (flags : List Value) (descending : Option Value) :
    Safe Trait.any s (sortedOf v descending) (s.Fresh ((Copying.sorted v flags).Holds s)) := by
  refine (expectIterable_same s "sorted" v).bind ?_
  rintro _ s growth rfl
  have asked : Safe Trait.any s (read fun s => descending.any s.truthy) fun s' _ => s' = s :=
    safe_read growth.sound rfl
  refine asked.bind ?_
  rintro down _ _ rfl
  refine (safe_objects _ v).bind fun items s₁ growth same => ?_
  have sorted : Safe Trait.any s₁ (tryRead (·.sort down items)) fun _ vs => vs.Perm items :=
    safe_tryRead growth.sound fun _ done => Sorting.sort_perm done
  refine sorted.bind fun vs s₂ growth₂ perm => ?_
  refine safe_make ⟨.createList growth₂.sound (Trait.any_all _ _), ?_⟩
  refine Store.fresh_createList (growth.trans growth₂).grows ⟨vs, rfl, fun objects found => ?_⟩
  exact same objects found ▸ perm

theorem dictOf_fresh (s : Store) (place : Nat) :
    Safe Trait.any s (dictOf (.dict place)) (s.Fresh ((Copying.dict place).Holds s)) := by
  have asked : Safe Trait.any s (read (·.contents place)) fun _ d => d = s.contents place :=
    safe_read (Trait.any_sound s) rfl
  refine asked.bind fun d s₁ growth same => ?_
  exact safe_make ⟨.createDict growth.sound (Trait.any_ofDict _ _),
    Store.fresh_createDict growth.grows (congrArg Holding.entries same)⟩

theorem add_fresh (s : Store) (left right : Nat) :
    Safe Trait.any s (Action.add (.list left) (.list right))
      (s.Fresh ((Copying.add left right).Holds s)) := by
  have asked : Safe Trait.any s (read fun s => (s.items left).toList ++ (s.items right).toList)
      fun _ vs => vs.toArray = s.items left ++ s.items right :=
    safe_read (Trait.any_sound s) (by simp)
  refine asked.bind fun vs s₁ growth same => ?_
  exact safe_make ⟨.createList growth.sound (Trait.any_all _ _),
    Store.fresh_createList growth.grows (congrArg Holding.items same)⟩

/-- A call that succeeds has done what its function does. -/
theorem body_of_invoke {name : String} {function : Builtin} (found : find? name = some function)
    (silent : function ≠ .print) {arguments : List Value} {w w' : World} {v : Value}
    (ran : invoke name arguments w = .ok v w') :
    function.body arguments w.store = .ok v w'.store := by
  have called : function.call arguments w = .ok v w' := by rw [← ran, invoke, found]
  by_cases accepts : function.arity.Accepts arguments.length
  · rw [call_of_accepts accepts, if_neg silent] at called
    exact Run.ok_of_act called
  · rw [call_of_not_accepts accepts] at called
    cases called

end Builtin

namespace Copying

open CallConsole.Action

variable {w w' : World} {v : Value}

/-- An operation that succeeds has done this in the store. -/
theorem act_of_run (copying : Copying) (ran : copying.run w = .ok v w') :
    copying.act w.store = .ok v w'.store := by
  cases copying with
  | list v =>
    have found : Builtin.find? "list" = some .list := rfl
    exact Builtin.body_of_invoke found (by decide) ran
  | sorted v flags =>
    have found : Builtin.find? "sorted" = some .sorted := rfl
    exact Builtin.body_of_invoke found (by decide) ran
  | dict place =>
    have found : Builtin.find? "dict" = some .dict := rfl
    exact Builtin.body_of_invoke found (by decide) ran
  | add left right => exact Run.ok_of_act ran

theorem act_fresh (copying : Copying) (s : Store) :
    Safe Trait.any s copying.act (s.Fresh (copying.Holds s)) := by
  cases copying with
  | list v => exact Builtin.listOf_fresh s v
  | sorted v flags =>
    match flags with
    | [] => exact Builtin.sortedOf_fresh s v [] none
    | [descending] => exact Builtin.sortedOf_fresh s v [descending] (some descending)
    | _ :: _ :: _ => exact safe_fail (Trait.any_sound s) _
  | dict place => exact Builtin.dictOf_fresh s place
  | add left right => exact Builtin.add_fresh s left right

/-- **A copy was not there before**, and holds the objects of its sources. -/
theorem fresh {copying : Copying} (ran : copying.run.outcome w = (.ok v, w')) :
    Trait.any.Growth w.store w'.store ∧ w.store.Fresh (copying.Holds w.store) w'.store v := by
  exact (copying.act_fresh w.store).ok (copying.act_of_run (Run.ok_of_outcome ran))

end Copying

/-! ### The whole frame -/

/-- **Nothing has a hidden effect.**

A call of any function with any arguments changes nothing that is there, whether it succeeds or
fails, and neither does a step that is not there to change something: a subscript, a sum, a
comparison, a traversal and so on. What is there to change something changes the one object that it
is applied to, and nothing at all if it fails. A copy made by `list`, `sorted`, `dict` or the sum of
two lists is an object that was not there, and holds the objects that its sources hold; whatever is
changed from then on, the copy and its sources each hold what has been made of themselves, so that
changes of the one leave the other as it is. -/
theorem no_hidden_effects :
    (∀ (w : World) (name : String) (arguments : List Value),
      w.store.Grows ((Builtin.invoke name arguments).outcome w).2.store) ∧
    (∀ (m : Machine) (step : Step), step.changed? = none →
      m.world.store.Grows (m.step step).2.world.store) ∧
    (∀ (w : World) (change : Mutation),
      (∀ x, (change.run.outcome w).2.store.HasObject x ↔ w.store.HasObject x) ∧
      (∀ x, x ≠ change.target →
        (change.run.outcome w).2.store.holding x = w.store.holding x) ∧
      (w.store.HasObject change.target → (change.run.outcome w).2.store.holding change.target =
        change.effect (w.store.holding change.target)) ∧
      ∀ failure, (change.run.outcome w).1 = .error failure → (change.run.outcome w).2 = w) ∧
    ∀ (w w' : World) (copying : Copying) (v : Value), copying.run.outcome w = (.ok v, w') →
      w.store.Grows w'.store ∧ w.store.Fresh (copying.Holds w.store) w'.store v ∧
      ∀ source ∈ copying.sources, w.store.HasObject source.identity → ∀ later : List Mutation,
        (∀ x, x = source.identity ∨ x = v.identity → (w'.after later).store.holding x =
          (later.filter (·.target = x)).foldl (fun held change => change.effect held)
            (w'.store.holding x)) ∧
        ((∀ change ∈ later, change.target = source.identity) →
          (w'.after later).store.holding v.identity = w'.store.holding v.identity) ∧
        ((∀ change ∈ later, change.target = v.identity) →
          (w'.after later).store.holding source.identity = w.store.holding source.identity) := by
  refine ⟨Builtin.invoke_grows, fun m _ => m.step_grows, fun w change => ?_,
    fun w w' copying v ran => ?_⟩
  · have ended := change.ends w
    exact ⟨ended.hasObject_iff, fun x => ended.holding_of_ne, ended.holding_target,
      fun failure => ended.of_error⟩
  obtain ⟨growth, fresh⟩ := Copying.fresh ran
  refine ⟨growth.grows, fresh, fun source _ there later => ?_⟩
  have apart : source.identity ≠ v.identity := fun same => fresh.absent (same ▸ there)
  have there' := growth.extends.hasObject there
  refine ⟨?_, fun others => ?_, fun others => ?_⟩
  · rintro x (rfl | rfl)
    · exact World.holding_after there' later
    · exact World.holding_after fresh.present later
  · refine World.holding_after_of_ne fresh.present fun change member => ?_
    exact others change member ▸ apart
  · rw [World.holding_after_of_ne there' fun change member => others change member ▸ apart.symm,
      growth.grows.holding_eq there]

/-- Operations on the list of two numbers: one that puts it into itself, and one that fails. -/
def knotting : List Mutation :=
  [.append (.list 0) (.null 7), .assign (.list 0) (.int 8 (-1)) (.list 0),
    .assign (.list 0) (.int 8 9) (.null 7)]

/-- A copy of the list goes on to hold the two numbers, while the list comes to hold itself. The
operation that fails changes nothing. -/
theorem no_hidden_effects_knotting :
    (∃ failure, ((Mutation.assign (.list 0) (.int 8 9) (.null 7)).run.outcome
        Machine.prepared.world).1 = .error failure ∧
      ((Mutation.assign (.list 0) (.int 8 9) (.null 7)).run.outcome Machine.prepared.world).2 =
        Machine.prepared.world) ∧
    ∃ w', (Copying.list (.list 0)).run.outcome Machine.prepared.world = (.ok (.list 1), w') ∧
      Machine.prepared.world.store.HasObject (.list 0) ∧
      (∀ change ∈ knotting, change.target = .list 0) ∧
      (w'.after knotting).store.holding (.list 1) = .items #[.int 0 1, .int 1 2] ∧
      (w'.after knotting).store.holding (.list 0) = .items #[.int 0 1, .int 1 2, .list 0] ∧
      Step.changed? (.contains (.variable "numbers") .null) = none ∧
      Machine.prepared.world.store.Grows
        (Machine.prepared.step (.contains (.variable "numbers") .null)).2.world.store := by
  have there : Machine.prepared.world.store.HasObject (.list 0) := Nat.zero_lt_one
  have targets : ∀ change ∈ knotting, change.target = .list 0 := by
    intro change member
    simp only [knotting, List.mem_cons, List.not_mem_nil, or_false] at member
    rcases member with rfl | rfl | rfl <;> rfl
  obtain ⟨_, _, apart⟩ := no_hidden_effects.2.2.2 Machine.prepared.world _
    (.list (.list 0)) (.list 1) rfl
  obtain ⟨made, kept, _⟩ := apart (.list 0) List.mem_cons_self there knotting
  have unchanged := (no_hidden_effects.2.2.1 Machine.prepared.world
    (.assign (.list 0) (.int 8 9) (.null 7))).2.2.2 _ rfl
  exact ⟨⟨_, rfl, unchanged⟩, _, rfl, there, targets, kept targets, made (.list 0) (.inl rfl), rfl,
    no_hidden_effects.2.1 _ _ rfl⟩

end CallConsole
