/-
**Displays evaluate to the values that they display.**

Evaluation only adds to the store, so what was built for one part of a display stays as it is while
the others are evaluated. An expression yields a tree if it evaluates in every world, without
printing, to a value that unfolds to the tree and goes on to do so however the store grows:

* `yields_list`, `yields_tuple`, `yields_dict`: a display yields the tree of what its parts yield;
* `yields_range`: a call of `range` with the bounds of a range yields the range.
-/

import CallConsole.Console
import CallConsole.Proofs.Growth
import CallConsole.Proofs.Unfolding
import Mathlib.Data.List.Forall2

namespace CallConsole

namespace Console

/-! ### What an expression yields -/

/-- Nothing was printed, nothing was taken out of the store, and what was made for good holds. -/
structure Builds (w w' : World) (Lasting : Store → Prop) : Prop where
  sink : w'.sink = w.sink
  grows : w.store.Grows w'.store
  lasting : ∀ s, w'.store.Grows s → Lasting s

/-- **What two steps build, both together build.** -/
theorem Builds.andThen {w w' w'' : World} {First Second : Store → Prop} (first : Builds w w' First)
    (second : Builds w' w'' Second) : Builds w w'' fun s => First s ∧ Second s where
  sink := second.sink.trans first.sink
  grows := first.grows.trans second.grows
  lasting s grows := ⟨first.lasting s (second.grows.trans grows), second.lasting s grows⟩

theorem Builds.imp {w w' : World} {First Second : Store → Prop} (builds : Builds w w' First)
    (weaker : ∀ s, First s → Second s) : Builds w w' Second where
  sink := builds.sink
  grows := builds.grows
  lasting s grows := weaker s (builds.lasting s grows)

/-- In every world the expression evaluates to a value of the tree. -/
def Yields (e : Expression) (t : Tree) : Prop :=
  ∀ w, ∃ v w', evaluate e w = .ok v w' ∧ Builds w w' (·.Unfolds v t)

/-- Nothing done builds what always holds. -/
theorem builds_nothing (w : World) : Builds w w fun _ => True :=
  ⟨rfl, .refl w.store, fun _ _ => trivial⟩

/-- An unchanging object is made of what was built. -/
theorem Builds.create {w w' : World} {First Second : Store → Prop} (builds : Builds w w' First)
    (make : Nat → Value) (made : ∀ s, First s → Second s) :
    Builds w { w' with store := (w'.store.create make).2 } Second where
  sink := builds.sink
  grows := builds.grows.trans (w'.store.grows_create make)
  lasting s grows := made s (builds.lasting s ((w'.store.grows_create make).trans grows))

/-- The tree of a literal that is no double. -/
def literalTree? : Literal → Option Tree
  | .null => some .null
  | .bool b => some (.bool b)
  | .int n => some (.int n)
  | .str text => some (.str text)
  | .float _ => none

/-- A literal yields its tree. -/
theorem yields_literal (span : Span) {value : Literal} {t : Tree}
    (tree : literalTree? value = some t) : Yields (.literal span value) t := by
  intro w
  cases value with
  | null =>
    cases tree
    exact ⟨_, _, rfl, (builds_nothing w).create .null fun s _ => .null _⟩
  | bool b =>
    cases tree
    exact ⟨_, _, rfl, (builds_nothing w).create (.bool · b) fun s _ => .bool _ b⟩
  | int n =>
    cases tree
    exact ⟨_, _, rfl, (builds_nothing w).create (.int · n) fun s _ => .int _ n⟩
  | str text =>
    cases tree
    exact ⟨_, _, rfl, (builds_nothing w).create (.str · text) fun s _ => .str _ text⟩
  | float x => cases tree

/-- Expressions that yield trees evaluate one after another. -/
theorem evaluateAll_yields {es : List Expression} {ts : List Tree}
    (each : List.Forall₂ Yields es ts) (w : World) :
    ∃ vs w', evaluateAll es w = .ok vs w' ∧ Builds w w' (·.UnfoldsAll vs ts) := by
  induction each generalizing w with
  | nil => exact ⟨[], w, rfl, rfl, .refl w.store, fun s _ => .nil⟩
  | cons head tail ih =>
    obtain ⟨v, w', first, builds⟩ := head w
    obtain ⟨vs, w'', rest, builds'⟩ := ih w'
    refine ⟨v :: vs, w'', ?_, (builds.andThen builds').imp fun s both => .cons both.1 both.2⟩
    simp only [evaluateAll, bind, EStateM.bind, first, rest]
    rfl

/-- **A list display yields the list of what its items yield.** -/
theorem yields_list (span : Span) {es : List Expression} {ts : List Tree}
    (each : List.Forall₂ Yields es ts) : Yields (.list span es) (.list ts) := by
  intro w
  obtain ⟨vs, w', items, builds⟩ := evaluateAll_yields each w
  refine ⟨.list w'.store.lists.size, { w' with store := (w'.store.createList vs).2 }, ?_, ?_⟩
  · simp only [evaluate, bind, EStateM.bind, items]
    rfl
  · refine ⟨builds.sink, builds.grows.trans (w'.store.grows_createList vs), fun s grows => .list ?_⟩
    rw [Store.items_of_grows grows]
    exact builds.lasting s ((w'.store.grows_createList vs).trans grows)

/-- **A tuple display yields the tuple of what its items yield.** -/
theorem yields_tuple (span : Span) {es : List Expression} {ts : List Tree}
    (each : List.Forall₂ Yields es ts) : Yields (.tuple span es) (.tuple ts) := by
  intro w
  obtain ⟨vs, w', items, builds⟩ := evaluateAll_yields each w
  refine ⟨.tuple w'.store.next vs, { w' with store := (w'.store.create (.tuple · vs)).2 }, ?_,
    builds.create (.tuple · vs) fun s all => .tuple w'.store.next all⟩
  simp only [evaluate, bind, EStateM.bind, items]
  rfl

/-! ### Dicts -/

/-- **Entries with keys of new and different slots are added one after another.** -/
theorem evaluateEntries_yields {pairs : List (Expression × Expression)} {ts : List (Tree × Tree)}
    (each : List.Forall₂ (fun p t => Yields p.1 t.1 ∧ Yields p.2 t.2) pairs ts) {slots : List Slot}
    (hashed : ts.map (fun t => t.1.slot?) = slots.map some) (d : Dict)
    (distinct : (d.entries.map Entry.slot ++ slots).Nodup) (w : World) :
    ∃ d' w' es, evaluateEntries d pairs w = .ok d' w' ∧ d'.entries = d.entries ++ es ∧
      Builds w w' (·.UnfoldsEntries es ts) := by
  induction each generalizing slots d w with
  | nil => exact ⟨d, w, [], rfl, (List.append_nil _).symm, rfl, .refl w.store, fun s _ => .nil⟩
  | @cons p t pairs ts head tail ih =>
    cases slots with
    | nil => cases hashed
    | cons slot slots =>
      rw [List.map_cons, List.map_cons, List.cons_eq_cons] at hashed
      obtain ⟨k, w₁, first, buildsKey⟩ := head.1 w
      obtain ⟨v, w₂, second, buildsValue⟩ := head.2 w₁
      have found := (buildsKey.lasting w₁.store (.refl w₁.store)).of?_eq hashed.1
      have new : slot ∉ d.entries.map Entry.slot := by
        intro member
        exact (List.nodup_append.mp distinct).2.2 slot member slot List.mem_cons_self rfl
      have entries := Dict.entries_put_of_missing (e := ⟨slot, k, v, found⟩)
        (Dict.entryAt?_eq_none_of_not_mem new)
      have distinct' : ((d.put ⟨slot, k, v, found⟩).entries.map Entry.slot ++ slots).Nodup := by
        rw [entries, List.map_append, List.append_assoc]
        exact distinct
      obtain ⟨d', w', es, rest, entries', builds⟩ := ih hashed.2 _ distinct' w₂
      refine ⟨d', w', ⟨slot, k, v, found⟩ :: es, ?_, ?_, ?_⟩
      · simp only [evaluateEntries, bind, EStateM.bind, first, second, Run.act,
          Action.insertInto_of_ok d found v, rest]
      · rw [entries', entries, List.append_assoc]
        rfl
      · exact ((buildsKey.andThen buildsValue).andThen builds).imp
          fun s all => .cons all.1.1 all.1.2 all.2

/-- **A dict display yields the dict of what its keys and values yield**, if no two keys share a
slot. -/
theorem yields_dict (span : Span) {pairs : List (Expression × Expression)} {ts : List (Tree × Tree)}
    (each : List.Forall₂ (fun p t => Yields p.1 t.1 ∧ Yields p.2 t.2) pairs ts)
    (distinct : Tree.DistinctKeys ts) : Yields (.dict span pairs) (.dict ts) := by
  intro w
  obtain ⟨slots, hashed, nodup⟩ := distinct
  obtain ⟨d, w', es, entries, all, builds⟩ := evaluateEntries_yields each hashed Dict.empty nodup w
  refine ⟨.dict w'.store.dicts.size, { w' with store := (w'.store.createDict d).2 }, ?_, ?_⟩
  · simp only [evaluate, bind, EStateM.bind, entries]
    rfl
  · refine ⟨builds.sink, builds.grows.trans (w'.store.grows_createDict d), fun s grows => .dict ?_⟩
    rw [Store.contents_of_grows grows, all]
    exact builds.lasting s ((w'.store.grows_createDict d).trans grows)

/-! ### Ranges -/

/-- The bounds that a range is written with. -/
def rangeBounds (r : Range) : List Tree :=
  [.int r.start, .int r.stop] ++ if r.step = 1 then [] else [.int r.step]

/-- A range can be made from its own bounds. -/
theorem rangeOf_bounds (r : Range) (s : Store) :
    Builtin.rangeOf r.start r.stop r.step s =
      .ok (s.create (.range · r)).1 (s.create (.range · r)).2 := by
  rw [Builtin.rangeOf, Range.of?, dif_pos r.step_ne_zero]
  rfl

/-- Two bounds make a range with the step one. -/
theorem invoke_range_two (i j : Nat) (start stop : Integer) (w : World) :
    Builtin.invoke "range" [.int i start, .int j stop] w =
      Run.act (Builtin.rangeOf start stop 1) w := rfl

/-- Three bounds make a range with the third one as the step. -/
theorem invoke_range_three (i j k : Nat) (start stop step : Integer) (w : World) :
    Builtin.invoke "range" [.int i start, .int j stop, .int k step] w =
      Run.act (Builtin.rangeOf start stop step) w := rfl

/-- **A call with the bounds of a range yields the range.** -/
theorem yields_range (span : Span) {es : List Expression} {r : Range}
    (each : List.Forall₂ Yields es (rangeBounds r)) :
    Yields (.call span "range" es) (.range r) := by
  intro w
  obtain ⟨vs, w', bounds, builds⟩ := evaluateAll_yields each w
  refine ⟨.range w'.store.next r, { w' with store := (w'.store.create (.range · r)).2 }, ?_,
    builds.create (.range · r) fun s _ => .range w'.store.next r⟩
  have all := builds.lasting w'.store (.refl _)
  have made : Builtin.invoke "range" vs w' =
      .ok (.range w'.store.next r) { w' with store := (w'.store.create (.range · r)).2 } := by
    unfold rangeBounds at all
    split at all
    case isTrue one =>
      rcases all with _ | ⟨⟨⟩, _ | ⟨⟨⟩, _ | _⟩⟩
      rw [invoke_range_two, ← one, Run.act, rangeOf_bounds]
      rfl
    case isFalse =>
      rcases all with _ | ⟨⟨⟩, _ | ⟨⟨⟩, _ | ⟨⟨⟩, _ | _⟩⟩⟩
      rw [invoke_range_three, Run.act, rangeOf_bounds]
      rfl
  simp only [evaluate, bind, EStateM.bind, bounds, Run.mapDiagnostic, made]

end Console

end CallConsole
