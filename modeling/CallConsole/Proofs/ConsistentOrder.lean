/-
**The order of values is consistent wherever it answers.**

A comparison may fail in two ways: the values have no order, or they hold containers too deep. Both
depend on the pair and not on its direction:

* `items_fail_alike`, `values_fail_alike`: turning a pair around keeps the kind of its failure, from
  values to sequences and back;
* `compare_consistent`: the order turns around with the pair, ties exactly the equal values among
  those that it ranks, and is transitive, each time with a promise that the comparison succeeds.
-/

import CallConsole.Proofs.ComparisonLaws

namespace CallConsole

/-- Wherever the order fails on free things, it fails on the turned pair for a cause of one kind. -/
def FailsAlike {α : Type} (Free : α → Prop) (order : α → α → Except Cause Ordering) : Prop :=
  ∀ a b, Free a → Free b → ∀ cause, order a b = .error cause →
    ∃ cause', order b a = .error cause' ∧ cause'.kind = cause.kind

/-- What is ranked turned around is ranked, so a failure is one in both directions. -/
theorem OrderLaws.exists_error {α : Type} {Free : α → Prop} {Same : α → α → Prop}
    {order : α → α → Except Cause Ordering} (laws : OrderLaws Free Same order) {a b : α}
    (freeA : Free a) (freeB : Free b) {cause : Cause} (failed : order a b = .error cause) :
    ∃ cause', order b a = .error cause' := by
  cases turned : order b a with
  | error cause' => exact ⟨cause', rfl⟩
  | ok o =>
    have ranked := laws.swap freeB freeA turned
    rw [failed] at ranked
    cases ranked

namespace Store

variable {s : Store}

/-! ### Failures of sequences and of values -/

/-- **The first different items fail, so sequences fail as their items do.** -/
theorem items_fail_alike {order : Value → Value → Except Cause Ordering}
    (laws : OrderLaws s.NanFree (s.equal · · = true) order) (alike : FailsAlike s.NanFree order) :
    FailsAlike (fun xs => ∀ v ∈ xs, s.NanFree v) (compareItems s.equal order) := by
  intro xs ys freeXs freeYs cause failed
  induction xs generalizing ys with
  | nil =>
    rw [compareItems_nil_left] at failed
    cases failed
  | cons x xs ih =>
    cases ys with
    | nil =>
      rw [compareItems_nil_right] at failed
      cases failed
    | cons y ys =>
      obtain ⟨freeX, restX⟩ := List.forall_mem_cons.mp freeXs
      obtain ⟨freeY, restY⟩ := List.forall_mem_cons.mp freeYs
      by_cases equal : s.equal x y = true
      · rw [compareItems_of_equal equal] at failed
        rw [compareItems_of_equal (equal_symm equal)]
        exact ih ys restX restY failed
      · rw [compareItems_of_differ laws freeX freeY equal] at failed
        rw [compareItems_of_differ laws freeY freeX (mt equal_symm equal)]
        exact alike x y freeX freeY cause failed

section Values

variable {items : List Value → List Value → Except Cause Ordering}

/-- Two values that are ordered as the sequences which they hold. -/
inductive Sequences (s : Store) : Value → Value → List Value → List Value → Prop
  | lists (i j : Nat) : Sequences s (.list i) (.list j) (s.items i).toList (s.items j).toList
  | tuples (i j : Nat) (xs ys : List Value) : Sequences s (.tuple i xs) (.tuple j ys) xs ys

theorem Sequences.symm {left right : Value} {xs ys : List Value}
    (held : s.Sequences left right xs ys) : s.Sequences right left ys xs := by
  cases held with
  | lists i j => exact .lists j i
  | tuples i j => exact .tuples j i ys xs

/-- Two such values are compared by their sequences. -/
theorem Sequences.compareWith_eq {left right : Value} {xs ys : List Value}
    (held : s.Sequences left right xs ys) : s.compareWith items left right = items xs ys := by
  cases held <;> rfl

/-- What such values hold is NaN-free where they are. -/
theorem Sequences.nanFree {left right : Value} {xs ys : List Value}
    (held : s.Sequences left right xs ys) (freeLeft : s.NanFree left)
    (freeRight : s.NanFree right) :
    (∀ v ∈ xs, s.NanFree v) ∧ ∀ v ∈ ys, s.NanFree v := by
  cases held with
  | lists i j => exact ⟨freeLeft.items, freeRight.items⟩
  | tuples i j => exact ⟨freeLeft.elements, freeRight.elements⟩

/-- **Values without an order are of types that have none, or hold sequences without an order.** -/
theorem eq_incomparable_or_sequences {left right : Value} {cause : Cause}
    (failed : s.compareWith items left right = .error cause) :
    cause = .incomparable left.type right.type ∨
      ∃ xs ys, s.Sequences left right xs ys ∧ items xs ys = .error cause := by
  unfold compareWith at failed
  split at failed
  case h_1 => cases failed
  case h_2 =>
    split at failed
    case h_1 => cases failed
    case h_2 => exact .inr ⟨_, _, .lists _ _, failed⟩
    case h_3 => exact .inr ⟨_, _, .tuples _ _ _ _, failed⟩
    case h_4 => exact .inl (Except.error.inj failed).symm

/-- **If sequences fail alike in both directions, values do.** -/
theorem values_fail_alike
    (laws : OrderLaws (fun xs => ∀ v ∈ xs, s.NanFree v) (List.Forall₂ (s.equal · · = true)) items)
    (alike : FailsAlike (fun xs => ∀ v ∈ xs, s.NanFree v) items) :
    FailsAlike s.NanFree (s.compareWith items) := by
  intro left right freeLeft freeRight cause failed
  obtain ⟨cause', failed'⟩ := (values_laws laws).exists_error freeLeft freeRight failed
  refine ⟨cause', failed', ?_⟩
  -- a pair that fails for its sequences does so in both directions
  have kinds {xs ys : List Value} (held : s.Sequences left right xs ys) :
      cause'.kind = cause.kind := by
    obtain ⟨freeXs, freeYs⟩ := held.nanFree freeLeft freeRight
    rw [held.compareWith_eq] at failed
    rw [held.symm.compareWith_eq] at failed'
    obtain ⟨cause'', turned, kind⟩ := alike xs ys freeXs freeYs cause failed
    rw [failed'] at turned
    cases turned
    exact kind
  rcases eq_incomparable_or_sequences failed with mismatch | ⟨xs, ys, held, _⟩
  · rcases eq_incomparable_or_sequences failed' with mismatch' | ⟨ys, xs, held, _⟩
    · rw [mismatch, mismatch']
      rfl
    · exact kinds held.symm
  · exact kinds held

end Values

/-- **At every depth a comparison fails alike in both directions.** -/
theorem compareWithin_fails_alike (depth : Nat) :
    FailsAlike s.NanFree (s.compareWithin depth) := by
  induction depth with
  | zero =>
    refine values_fail_alike (laws_of_failing .comparisonTooDeep) ?_
    intro xs ys _ _ cause failed
    exact ⟨.comparisonTooDeep, rfl, congrArg Cause.kind (Except.error.inj failed)⟩
  | succ depth ih =>
    exact values_fail_alike (items_laws (compareWithin_laws depth))
      (items_fail_alike (compareWithin_laws depth) ih)

/-! ### The order of values -/

/-- **The order is consistent wherever it answers.** For values from which no NaN is reachable:
turning the pair around turns the order around, and a failure into one of the same kind; only equal
values are tied, and equal values are tied if they have an order; and what is not greater than
something not greater has an order, is not greater, and is tied only if all are tied. -/
theorem compare_consistent (s : Store) {a b c : Value} (freeA : s.NanFree a) (freeB : s.NanFree b)
    (freeC : s.NanFree c) :
    (∀ o, s.compare a b = .ok o → s.compare b a = .ok o.swap) ∧
      (∀ cause, s.compare a b = .error cause →
        ∃ cause', s.compare b a = .error cause' ∧ cause'.kind = cause.kind) ∧
      (s.compare a b = .ok .eq → s.equal a b = true) ∧
      (s.equal a b = true → ∀ o, s.compare a b = .ok o → o = .eq) ∧
      ∀ o o', s.compare a b = .ok o → s.compare b c = .ok o' → o ≠ .gt → o' ≠ .gt →
        ∃ o'', s.compare a c = .ok o'' ∧ o'' ≠ .gt ∧ (o'' = .eq → o = .eq ∧ o' = .eq) := by
  refine ⟨fun o => compare_laws.swap freeA freeB,
    compareWithin_fails_alike depthLimit a b freeA freeB, compare_laws.tie freeA freeB,
    fun same o => compare_laws.eq_of_same freeA freeB same, ?_⟩
  intro o o' before after first second
  refine ⟨o.then o', compare_laws.trans_then freeA freeB freeC before after first second, ?_, ?_⟩
  · cases o with
    | lt => nofun
    | eq => exact second
    | gt => exact absurd rfl first
  · exact Ordering.then_eq_eq.mp

/-- Three lists that end in themselves or each other: one and true are equal, and two is greater. -/
def loopedStore : Store where
  lists := #[#[.int 0 1, .list 1], #[.bool 1 true, .list 0], #[.int 2 2, .list 2]]
  dicts := #[]
  next := 3

/-- The looped lists hold integers, booleans and lists only. -/
theorem nanFree_looped (place : Nat) : loopedStore.NanFree (.list place) := by
  have whole : ∀ w, loopedStore.Reaches (.list place) w →
      (∃ i, w = .list i) ∨ ∃ a, Number.of? w = some a ∧ a.isNan = false := by
    intro w reached
    induction reached with
    | refl => exact .inl ⟨place, rfl⟩
    | @tail v w _ holds ih =>
      rcases ih with ⟨i, rfl⟩ | ⟨a, number, _⟩
      · cases holds with
        | item member =>
          match i with
          | 0 | 1 | 2 =>
            rcases List.mem_pair.mp (Array.mem_toList_iff.mpr member) with rfl | rfl
            · exact .inr ⟨_, rfl, rfl⟩
            · exact .inl ⟨_, rfl⟩
          | i + 3 =>
            have inside : i + 3 < 3 := lt_size_of_mem_items (Array.mem_toList_iff.mpr member)
            omega
      · cases holds <;> cases number
  intro w reached nan
  rcases whole w reached with ⟨i, rfl⟩ | ⟨a, number, notNan⟩
  · exact nan
  · rw [(Value.isNan_iff number).mp nan] at notNan
    cases notNan

/-- The tails of the first two looped lists are equal: they come back to where they start from. -/
theorem equal_looped : loopedStore.equal (.list 1) (.list 0) = true := by
  have heads (active : List ContainerPair) :
      loopedStore.equalInside active (.int 0 1) (.bool 1 true) = true := by
    rw [equalInside.eq_def]
    rfl
  have turned (active : List ContainerPair) :
      loopedStore.equalInside active (.bool 1 true) (.int 0 1) = true := by
    rw [equalInside.eq_def]
    rfl
  have tails : loopedStore.equalInside [.lists 0 1, .lists 1 0] (.list 1) (.list 0) = true :=
    equalInside_lists.mpr (.inr (.inl (by decide)))
  have rests : loopedStore.equalInside [.lists 1 0] (.list 0) (.list 1) = true :=
    equalInside_lists.mpr (.inr (.inr (.cons (heads _) (.cons tails .nil))))
  exact equalInside_lists.mpr (.inr (.inr (.cons (turned _) (.cons rests .nil))))

/-- The first two looped lists are tied, since their items are equal. -/
theorem compare_looped_tied : loopedStore.compare (.list 0) (.list 1) = .ok .eq := by
  have heads : loopedStore.equal (.int 0 1) (.bool 1 true) = true := by
    rw [equal, equalInside.eq_def]
    rfl
  change compareItems loopedStore.equal (loopedStore.compareWithin 199)
    [.int 0 1, .list 1] [.bool 1 true, .list 0] = _
  rw [compareItems_of_equal heads, compareItems_of_equal equal_looped]
  rfl

/-- The second looped list is less than the third one, by their first items. -/
theorem compare_looped_less : loopedStore.compare (.list 1) (.list 2) = .ok .lt := by
  have differ : ¬ loopedStore.equal (.bool 1 true) (.int 2 2) = true := by
    rw [equal, equalInside.eq_def]
    decide
  change compareItems loopedStore.equal (loopedStore.compareWithin 199)
    [.bool 1 true, .list 0] [.int 2 2, .list 2] = _
  rw [compareItems, if_neg differ]
  rfl

/-- The looped lists are ordered consistently: the first two are tied, the third one is greater. -/
theorem compare_consistent_looped :
    (loopedStore.NanFree (.list 0) ∧ loopedStore.NanFree (.list 1) ∧
      loopedStore.NanFree (.list 2)) ∧
    (loopedStore.compare (.list 0) (.list 1) = .ok .eq ∧
      loopedStore.compare (.list 1) (.list 2) = .ok .lt ∧
      loopedStore.compare (.list 0) (.list 2) = .ok .lt) ∧
    (∀ o, loopedStore.compare (.list 0) (.list 1) = .ok o →
      loopedStore.compare (.list 1) (.list 0) = .ok o.swap) ∧
    (∀ cause, loopedStore.compare (.list 0) (.list 1) = .error cause →
      ∃ cause', loopedStore.compare (.list 1) (.list 0) = .error cause' ∧
        cause'.kind = cause.kind) ∧
    (loopedStore.compare (.list 0) (.list 1) = .ok .eq →
      loopedStore.equal (.list 0) (.list 1) = true) ∧
    (loopedStore.equal (.list 0) (.list 1) = true →
      ∀ o, loopedStore.compare (.list 0) (.list 1) = .ok o → o = .eq) ∧
    ∀ o o', loopedStore.compare (.list 0) (.list 1) = .ok o →
      loopedStore.compare (.list 1) (.list 2) = .ok o' → o ≠ .gt → o' ≠ .gt →
        ∃ o'', loopedStore.compare (.list 0) (.list 2) = .ok o'' ∧ o'' ≠ .gt ∧
          (o'' = .eq → o = .eq ∧ o' = .eq) := by
  have consistent := compare_consistent loopedStore (nanFree_looped 0) (nanFree_looped 1)
    (nanFree_looped 2)
  refine ⟨⟨nanFree_looped 0, nanFree_looped 1, nanFree_looped 2⟩,
    ⟨compare_looped_tied, compare_looped_less, ?_⟩, consistent⟩
  -- one step is less, so both of them are
  obtain ⟨o, order, notGreater, tied⟩ :=
    consistent.2.2.2.2 _ _ compare_looped_tied compare_looped_less nofun nofun
  cases o with
  | lt => exact order
  | eq => cases (tied rfl).2
  | gt => exact absurd rfl notGreater

end Store

end CallConsole
