/-
**Equality decides similarity.**

The walk that compares two values takes every pair of containers that it is inside of to be equal.
It ends, because every comparison inside another one has fewer pairs left to enter or smaller values
(`nested_wellFounded`), and it answers `true` exactly for similar values (`equal_iff_similar`), so
equality is the greatest relation that passes the step of comparison.
-/

import CallConsole.Proofs.Similarity
import Mathlib.Data.Prod.Lex

namespace CallConsole

namespace Store

variable {s : Store}

/-! ### The walk ends -/

/-- Two values to be compared, and the pairs of containers that the walk is inside of. -/
structure Comparison where
  active : List ContainerPair
  left : Value
  right : Value

/-- The first comparison may be made in the course of the second one. -/
inductive Nested (s : Store) : Comparison → Comparison → Prop
  | mk {active : List ContainerPair} {left right x y : Value} :
      ¬ Assumed active left right → s.Faces left right x y →
      Nested s ⟨enter active left right, x, y⟩ ⟨active, left, right⟩

/-- The pairs that are left to enter, then the size of the left value. -/
noncomputable def Comparison.measure (s : Store) (c : Comparison) : Nat ×ₗ Nat :=
  toLex (outside s.containerPairs c.active, sizeOf c.left)

/-- A nested comparison has a smaller measure. -/
theorem measure_lt_of_nested {inner outer : Comparison} (nested : s.Nested inner outer) :
    inner.measure s < outer.measure s := by
  obtain ⟨new, faces⟩ := nested
  cases faces with
  | elements first second =>
    refine Prod.Lex.toLex_lt_toLex.mpr (.inr ⟨rfl, ?_⟩)
    have := List.sizeOf_lt_of_mem first
    simp only [Value.tuple.sizeOf_spec]
    omega
  | @items i j x y first second =>
    apply Prod.Lex.toLex_lt_toLex.mpr
    refine .inl (outside_cons_lt ?_ fun member => new ⟨_, member, rfl⟩)
    exact mem_containerPairs_lists (lt_size_of_mem_items first) (lt_size_of_mem_items second)
  | @values i j e f first second =>
    apply Prod.Lex.toLex_lt_toLex.mpr
    refine .inl (outside_cons_lt ?_ fun member => new ⟨_, member, rfl⟩)
    exact mem_containerPairs_dicts (lt_size_of_mem_entries first) (lt_size_of_mem_entries second)

/-- **Every chain of nested comparisons ends.** -/
theorem nested_wellFounded (s : Store) : WellFounded s.Nested :=
  Subrelation.wf measure_lt_of_nested (InvImage.wf (Comparison.measure s) wellFounded_lt)

/-! ### The walk decides similarity -/

/-- Sequences are equal exactly when they are as long and equal at every place. -/
theorem equalItems_iff {active : List ContainerPair} {xs ys : List Value} :
    s.equalItems active xs ys = true ↔
      List.Forall₂ (fun x y => s.equalInside active x y = true) xs ys := by
  induction xs generalizing ys with
  | nil => cases ys <;> simp [equalItems]
  | cons x xs ih => cases ys <;> simp [equalItems, ih]

/-- Entries are equal to a dict's exactly when each has an equal value under its slot there. -/
theorem equalEntries_iff {active : List ContainerPair} {entries : List Entry} {other : Dict} :
    s.equalEntries active entries other = true ↔
      ∀ e ∈ entries, ∃ f ∈ other.entries,
        f.slot = e.slot ∧ s.equalInside active e.value f.value = true := by
  induction entries with
  | nil => simp [equalEntries]
  | cons e rest ih =>
    rw [equalEntries, Bool.and_eq_true, ih, List.forall_mem_cons]
    refine and_congr_left' ?_
    cases found : other.entryAt? e.slot with
    | none =>
      rw [Dict.valueAt?, found, Option.map_none]
      refine ⟨fun impossible => (Bool.false_ne_true impossible).elim, ?_⟩
      rintro ⟨f, member, slot, _⟩
      exact (Dict.not_mem_of_entryAt?_eq_none found (List.mem_map.mpr ⟨f, member, slot⟩)).elim
    | some f =>
      rw [Dict.valueAt?, found, Option.map_some]
      have slot : f.slot = e.slot := by simpa using List.find?_some found
      have member : f ∈ other.entries := List.mem_of_find?_eq_some found
      constructor
      · exact fun equal => ⟨f, member, slot, equal⟩
      · rintro ⟨f', member', slot', equal⟩
        rwa [other.eq_of_slot member member' (slot.trans slot'.symm)]

/-- Two lists are equal if they are the same, assumed to be equal, or have equal items. -/
theorem equalInside_lists {active : List ContainerPair} {i j : Nat} :
    s.equalInside active (.list i) (.list j) = true ↔
      i = j ∨ .lists i j ∈ active ∨
        List.Forall₂ (fun x y => s.equalInside (.lists i j :: active) x y = true)
          (s.items i).toList (s.items j).toList := by
  rw [equalInside.eq_def]
  simp only [Number.of?]
  by_cases known : i = j ∨ .lists i j ∈ active
  · rw [if_pos known, ← or_assoc]
    exact iff_of_true rfl (.inl known)
  rw [if_neg known, ← or_assoc, or_iff_right known]
  by_cases inside : i < s.lists.size ∧ j < s.lists.size
  · rw [dif_pos inside, equalItems_iff]
  -- a list outside the store is empty, so nothing is entered
  rw [dif_neg inside, Bool.and_eq_true, Array.isEmpty_iff, Array.isEmpty_iff,
    ← Array.toList_eq_nil_iff, ← Array.toList_eq_nil_iff]
  rcases Decidable.not_and_iff_not_or_not.mp inside with outside | outside
  · rw [items_eq_nil outside, List.forall₂_nil_left_iff]
    exact and_iff_right rfl
  · rw [items_eq_nil outside, List.forall₂_nil_right_iff]
    exact and_iff_left rfl

/-- Two dicts are equal if they are the same, assumed to be equal, or have equal entries. -/
theorem equalInside_dicts {active : List ContainerPair} {i j : Nat} :
    s.equalInside active (.dict i) (.dict j) = true ↔
      i = j ∨ .dicts i j ∈ active ∨
        EntriesMatch (fun x y => s.equalInside (.dicts i j :: active) x y = true)
          (s.contents i) (s.contents j) := by
  rw [equalInside.eq_def]
  simp only [Number.of?]
  by_cases known : i = j ∨ .dicts i j ∈ active
  · rw [if_pos known, ← or_assoc]
    exact iff_of_true rfl (.inl known)
  rw [if_neg known, ← or_assoc, or_iff_right known]
  by_cases inside : i < s.dicts.size ∧ j < s.dicts.size
  · rw [dif_pos inside, Bool.and_eq_true, decide_eq_true_eq, equalEntries_iff]
    exact ⟨fun both => ⟨both.1, both.2⟩, fun agree => ⟨agree.length, agree.values⟩⟩
  -- a dict outside the store is empty, so nothing is entered
  rw [dif_neg inside, Bool.and_eq_true, List.isEmpty_iff, List.isEmpty_iff]
  constructor
  · rintro ⟨first, second⟩
    refine ⟨by rw [Dict.length, Dict.length, first, second], fun e member => ?_⟩
    rw [first] at member
    cases member
  · intro agree
    have lengths := agree.length
    rw [Dict.length, Dict.length] at lengths
    rcases Decidable.not_and_iff_not_or_not.mp inside with outside | outside
    · rw [entries_eq_nil outside] at lengths ⊢
      exact ⟨rfl, List.length_eq_zero_iff.mp lengths.symm⟩
    · rw [entries_eq_nil outside] at lengths ⊢
      exact ⟨List.length_eq_zero_iff.mp lengths, rfl⟩

/-- Lazy sequences are equal if they are the same object. -/
theorem equalInside_lazy {active : List ContainerPair} {left right : Value} (kind : left.IsLazy)
    (type : left.type = right.type) (same : left.same right = true) :
    s.equalInside active left right = true := by
  cases left <;> simp [Value.IsLazy, Value.type] at kind <;>
    cases right <;> simp [Value.type] at type <;>
    simpa [equalInside, Number.of?, Value.same, Value.identity] using same

/-- **One step of the walk**: a pair is equal if it is assumed, or if it passes the step of
comparison with the walk that is inside of it too. -/
theorem equalInside_iff {active : List ContainerPair} {left right : Value} :
    s.equalInside active left right = true ↔
      Assumed active left right ∨
        s.Matches (fun x y => s.equalInside (enter active left right) x y = true) left right := by
  constructor
  · intro equal
    have arm := equal
    rw [equalInside.eq_def] at arm
    split at arm
    case h_1 a b first second =>
      exact .inr (.number first second (Number.order?_eq_some_eq_iff.mp (of_decide_eq_true arm)))
    split at arm
    case h_1 => exact .inr (.null _ _)
    case h_2 =>
      cases of_decide_eq_true arm
      exact .inr (.str _ _ _)
    case h_3 => exact .inr (.tuple _ _ (equalItems_iff.mp arm))
    case h_4 =>
      rcases equalInside_lists.mp equal with rfl | assumed | related
      · exact .inr (.sameList _)
      · exact .inl ⟨_, assumed, rfl⟩
      · exact .inr (.list related)
    case h_5 =>
      rcases equalInside_dicts.mp equal with rfl | assumed | related
      · exact .inr (.sameDict _)
      · exact .inl ⟨_, assumed, rfl⟩
      · exact .inr (.dict related)
    case h_6 => exact .inr (.range _ _ (Range.sameElements_iff.mp arm))
    case h_11 =>
      exact .inr (.lazy (.inr (.inl rfl)) rfl (by simpa [Value.same, Value.identity] using arm))
    case h_12 =>
      exact .inr (.lazy (.inr (.inr rfl)) rfl (by simpa [Value.same, Value.identity] using arm))
    case h_13 => cases arm
    all_goals
      exact .inr (.lazy (.inl rfl) rfl (by simpa [Value.same, Value.identity] using arm))
  · rintro (⟨p, member, pair⟩ | agree)
    · unfold pair? at pair
      split at pair <;> cases pair
      · exact equalInside_lists.mpr (.inr (.inl member))
      · exact equalInside_dicts.mpr (.inr (.inl member))
    · cases agree with
      | number first second same =>
        rw [equalInside.eq_def, first, second]
        exact decide_eq_true (Number.order?_eq_some_eq_iff.mpr same)
      | null i j => simp [equalInside, Number.of?]
      | str i j text => simp [equalInside, Number.of?]
      | tuple i j related =>
        rw [equalInside.eq_def]
        exact equalItems_iff.mpr related
      | sameList place => exact equalInside_lists.mpr (.inl rfl)
      | list related => exact equalInside_lists.mpr (.inr (.inr related))
      | sameDict place => exact equalInside_dicts.mpr (.inl rfl)
      | dict related => exact equalInside_dicts.mpr (.inr (.inr related))
      | range i j same =>
        rw [equalInside.eq_def]
        exact Range.sameElements_iff.mpr same
      | lazy kind type same => exact equalInside_lazy kind type same

/-- **The walk decides similarity inside the pairs that it assumes.** -/
theorem equalInside_iff_similarInside (c : Comparison) :
    s.equalInside c.active c.left c.right = true ↔ s.SimilarInside c.active c.left c.right := by
  induction c using s.nested_wellFounded.induction with
  | _ c ih =>
    rw [equalInside_iff, similarInside_iff]
    by_cases assumed : Assumed c.active c.left c.right
    · exact iff_of_true (.inl assumed) (.inl assumed)
    rw [or_iff_right assumed, or_iff_right assumed]
    constructor
    · exact fun agree => agree.imp fun x y faces => (ih _ (.mk assumed faces)).mp
    · exact fun agree => agree.imp fun x y faces => (ih _ (.mk assumed faces)).mpr

/-- **Two values are equal exactly when they are similar.** -/
theorem equal_iff_similar {left right : Value} :
    s.equal left right = true ↔ s.Similar left right :=
  (equalInside_iff_similarInside ⟨[], left, right⟩).trans similarInside_nil

/-- Equality passes the step of comparison at every pair, and only such pairs are equal. -/
theorem equal_iff_matches {left right : Value} :
    s.equal left right = true ↔ s.Matches (fun x y => s.equal x y = true) left right := by
  simp only [equal_iff_similar]
  exact similar_iff_matches

theorem equal_symm {left right : Value} (equal : s.equal left right = true) :
    s.equal right left = true :=
  equal_iff_similar.mpr (equal_iff_similar.mp equal).symm

theorem equal_trans {left middle right : Value} (before : s.equal left middle = true)
    (after : s.equal middle right = true) : s.equal left right = true :=
  equal_iff_similar.mpr ((equal_iff_similar.mp before).trans (equal_iff_similar.mp after))

theorem equal_refl {v : Value} (free : s.NanFree v) : s.equal v v = true :=
  equal_iff_similar.mpr (similar_refl free)

/-- **Equality of values is the greatest relation that passes the step of comparison.** Every chain
of nested comparisons ends. Equality passes the step at each pair, every pair that passes it with
equality is equal, and every relation that passes it at all its pairs holds of equal values only.
Equality is therefore symmetric and transitive, and reflexive on every value from which no NaN is
reachable. -/
theorem equal_greatest (s : Store) :
    WellFounded s.Nested ∧
      (∀ x y, s.equal x y = true ↔ s.Matches (fun x y => s.equal x y = true) x y) ∧
      (∀ R : Value → Value → Prop, (∀ x y, R x y → s.Matches R x y) →
        ∀ x y, R x y → s.equal x y = true) ∧
      (∀ x y, s.equal x y = true → s.equal y x = true) ∧
      (∀ x y z, s.equal x y = true → s.equal y z = true → s.equal x z = true) ∧
      ∀ x, s.NanFree x → s.equal x x = true := by
  refine ⟨s.nested_wellFounded, fun x y => equal_iff_matches, fun R steps x y related => ?_,
    fun x y => equal_symm, fun x y z => equal_trans, fun x => equal_refl⟩
  exact equal_iff_similar.mpr ⟨R, steps, related⟩

end Store

end CallConsole
