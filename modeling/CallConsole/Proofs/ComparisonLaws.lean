/-
**The laws of the order of values.**

Not every two values have an order, and a comparison goes only so many containers deep. Among values
without NaN the order still has all the laws that sorting needs, each of them with the promise that
the comparison it speaks of succeeds:

* `OrderLaws`: turning around, ties, exchange of equal values, and transitivity;
* `items_laws`, `values_laws`: the laws pass from values to sequences and back;
* `compareWithin_laws`: they hold at every depth.
-/

import CallConsole.Comparison
import CallConsole.Proofs.Equality

namespace CallConsole

/-- The laws of an order that may fail, among the things that are free. Its ties are the pairs of
things that are the same. -/
structure OrderLaws {α : Type} (Free : α → Prop) (Same : α → α → Prop)
    (order : α → α → Except Cause Ordering) : Prop where
  swap {a b : α} {o : Ordering} : Free a → Free b → order a b = .ok o → order b a = .ok o.swap
  tie {a b : α} : Free a → Free b → order a b = .ok .eq → Same a b
  congr {a b c : α} {o : Ordering} : Free a → Free b → Free c → Same a b →
    order a c = .ok o → order b c = .ok o
  trans {a b c : α} : Free a → Free b → Free c →
    order a b = .ok .lt → order b c = .ok .lt → order a c = .ok .lt

namespace OrderLaws

variable {α : Type} {Free : α → Prop} {Same : α → α → Prop}
  {order : α → α → Except Cause Ordering} {a b c : α} {o : Ordering}

/-- What is the same can be exchanged on the right too. -/
theorem congr_right (laws : OrderLaws Free Same order) (freeA : Free a) (freeB : Free b)
    (freeC : Free c) (same : Same b c) (ranked : order a b = .ok o) : order a c = .ok o := by
  have turned := laws.congr freeB freeC freeA same (laws.swap freeA freeB ranked)
  have back := laws.swap freeC freeA turned
  rwa [Ordering.swap_swap] at back

/-- What is the same is tied, if it has an order. -/
theorem eq_of_same (laws : OrderLaws Free Same order) (freeA : Free a) (freeB : Free b)
    (same : Same a b) (ranked : order a b = .ok o) : o = .eq := by
  have itself := laws.congr freeA freeB freeB same ranked
  have turned := laws.swap freeB freeB itself
  rw [itself, Except.ok.injEq] at turned
  cases o with
  | eq => rfl
  | lt | gt => cases turned

/-- What comes first comes first among ties too. -/
theorem trans_then (laws : OrderLaws Free Same order) (freeA : Free a) (freeB : Free b)
    (freeC : Free c) {o' : Ordering} (before : order a b = .ok o) (after : order b c = .ok o')
    (first : o ≠ .gt) (second : o' ≠ .gt) : order a c = .ok (o.then o') := by
  cases o with
  | eq =>
    have tied : order b a = .ok .eq := laws.swap freeA freeB before
    exact laws.congr freeB freeA freeC (laws.tie freeB freeA tied) after
  | gt => exact absurd rfl first
  | lt =>
    cases o' with
    | eq => exact laws.congr_right freeA freeB freeC (laws.tie freeB freeC after) before
    | gt => exact absurd rfl second
    | lt => exact laws.trans freeA freeB freeC before after

end OrderLaws

/-! ### Numbers and texts -/

/-- Numbers have an order, except beside NaN. -/
theorem Number.order_laws :
    OrderLaws (fun a : Number => a.isNan = false) Number.Same
      fun a b => .ok ((a.order? b).getD .eq) where
  swap := by
    intro a b o _ _ ranked
    rw [order?_swap, ← Except.ok.inj ranked]
    cases a.order? b with
    | none => rfl
    | some o => rfl
  tie := by
    intro a b freeA freeB ranked
    rw [order?_of_not_nan freeA freeB, Option.getD_some, Except.ok.injEq,
      Int.compare_eq_eq] at ranked
    exact ⟨freeA, freeB, ranked⟩
  congr := by
    intro a b c o freeA freeB freeC same ranked
    rw [order?_of_not_nan freeA freeC, same.2.2] at ranked
    rw [order?_of_not_nan freeB freeC]
    exact ranked
  trans := by
    intro a b c freeA freeB freeC before after
    rw [order?_of_not_nan freeA freeB, Option.getD_some, Except.ok.injEq,
      Int.compare_eq_lt] at before
    rw [order?_of_not_nan freeB freeC, Option.getD_some, Except.ok.injEq,
      Int.compare_eq_lt] at after
    rw [order?_of_not_nan freeA freeC, Option.getD_some, Except.ok.injEq, Int.compare_eq_lt]
    exact Int.lt_trans before after

/-- Turning two texts around turns their order around. -/
theorem textOrder_swap (first second : List Char) :
    textOrder second first = (textOrder first second).swap := by
  induction first generalizing second with
  | nil => cases second <;> rfl
  | cons c cs ih =>
    cases second with
    | nil => rfl
    | cons d ds => rw [textOrder, textOrder, Ordering.swap_then, Nat.compare_swap, ih]

/-- Only a text itself has its rank. -/
theorem eq_of_textOrder {first second : List Char} (tied : textOrder first second = .eq) :
    first = second := by
  induction first generalizing second with
  | nil =>
    cases second with
    | nil => rfl
    | cons d ds => cases tied
  | cons c cs ih =>
    cases second with
    | nil => cases tied
    | cons d ds =>
      rw [textOrder, Ordering.then_eq_eq, Nat.compare_eq_eq] at tied
      rw [ih tied.2, Char.toNat_inj.mp tied.1]

theorem textOrder_trans {first second third : List Char} (before : textOrder first second = .lt)
    (after : textOrder second third = .lt) : textOrder first third = .lt := by
  induction first generalizing second third with
  | nil =>
    cases second with
    | nil => cases before
    | cons d ds =>
      cases third with
      | nil => cases after
      | cons e es => rfl
  | cons c cs ih =>
    cases second with
    | nil => cases before
    | cons d ds =>
      cases third with
      | nil => cases after
      | cons e es =>
        rw [textOrder, Ordering.then_eq_lt, Nat.compare_eq_lt, Nat.compare_eq_eq] at before after ⊢
        rcases before with less | ⟨same, rest⟩
        · rcases after with less' | ⟨same', _⟩
          · exact .inl (Nat.lt_trans less less')
          · exact .inl (same' ▸ less)
        · rcases after with less' | ⟨same', rest'⟩
          · exact .inl (same ▸ less')
          · exact .inr ⟨same.trans same', ih rest rest'⟩

namespace Store

variable {s : Store}

/-! ### Sequences of items -/

section Items

variable {order : Value → Value → Except Cause Ordering}

theorem compareItems_nil_left (ys : List Value) :
    compareItems s.equal order [] ys = .ok (Ord.compare 0 ys.length) := by
  cases ys <;> rfl

theorem compareItems_nil_right (xs : List Value) :
    compareItems s.equal order xs [] = .ok (Ord.compare xs.length 0) := by
  cases xs <;> rfl

/-- Equal first items are passed over. -/
theorem compareItems_of_equal {x y : Value} (equal : s.equal x y = true) (xs ys : List Value) :
    compareItems s.equal order (x :: xs) (y :: ys) = compareItems s.equal order xs ys := by
  rw [compareItems, if_pos equal]

/-- Different first items decide, since only equal values are tied. -/
theorem compareItems_of_differ (laws : OrderLaws s.NanFree (s.equal · · = true) order) {x y : Value}
    (freeX : s.NanFree x) (freeY : s.NanFree y) (differ : ¬ s.equal x y = true)
    (xs ys : List Value) : compareItems s.equal order (x :: xs) (y :: ys) = order x y := by
  rw [compareItems, if_neg differ]
  cases ranked : order x y with
  | error cause => rfl
  | ok o =>
    cases o with
    | eq => exact absurd (laws.tie freeX freeY ranked) differ
    | lt | gt => rfl

/-- **If values have the laws, sequences of them have the laws.** -/
theorem items_laws (laws : OrderLaws s.NanFree (s.equal · · = true) order) :
    OrderLaws (fun xs => ∀ v ∈ xs, s.NanFree v) (List.Forall₂ (s.equal · · = true))
      (compareItems s.equal order) where
  swap {xs ys o} freeXs freeYs ranked := by
    induction xs generalizing ys with
    | nil =>
      rw [compareItems_nil_left] at ranked
      rw [compareItems_nil_right, ← Except.ok.inj ranked, Nat.compare_swap]
    | cons x xs ih =>
      cases ys with
      | nil =>
        rw [compareItems_nil_right] at ranked
        rw [compareItems_nil_left, ← Except.ok.inj ranked, Nat.compare_swap]
      | cons y ys =>
        obtain ⟨freeX, restX⟩ := List.forall_mem_cons.mp freeXs
        obtain ⟨freeY, restY⟩ := List.forall_mem_cons.mp freeYs
        by_cases equal : s.equal x y = true
        · rw [compareItems_of_equal equal] at ranked
          rw [compareItems_of_equal (equal_symm equal)]
          exact ih restX restY ranked
        · rw [compareItems_of_differ laws freeX freeY equal] at ranked
          rw [compareItems_of_differ laws freeY freeX (mt equal_symm equal)]
          exact laws.swap freeX freeY ranked
  tie {xs ys} freeXs freeYs tied := by
    induction xs generalizing ys with
    | nil =>
      rw [compareItems_nil_left, Except.ok.injEq, Nat.compare_eq_eq] at tied
      rw [List.length_eq_zero_iff.mp tied.symm]
      exact .nil
    | cons x xs ih =>
      cases ys with
      | nil =>
        rw [compareItems_nil_right, Except.ok.injEq, Nat.compare_eq_eq] at tied
        cases tied
      | cons y ys =>
        obtain ⟨freeX, restX⟩ := List.forall_mem_cons.mp freeXs
        obtain ⟨freeY, restY⟩ := List.forall_mem_cons.mp freeYs
        by_cases equal : s.equal x y = true
        · rw [compareItems_of_equal equal] at tied
          exact .cons equal (ih restX restY tied)
        · rw [compareItems_of_differ laws freeX freeY equal] at tied
          exact absurd (laws.tie freeX freeY tied) equal
  congr {xs ys zs o} freeXs freeYs freeZs same ranked := by
    induction same generalizing zs with
    | nil => exact ranked
    | @cons x y xs ys head tail ih =>
      cases zs with
      | nil =>
        rw [compareItems_nil_right, List.length_cons, tail.length_eq] at ranked
        rw [compareItems_nil_right, List.length_cons, ranked]
      | cons z zs =>
        obtain ⟨freeX, restX⟩ := List.forall_mem_cons.mp freeXs
        obtain ⟨freeY, restY⟩ := List.forall_mem_cons.mp freeYs
        obtain ⟨freeZ, restZ⟩ := List.forall_mem_cons.mp freeZs
        by_cases equal : s.equal x z = true
        · rw [compareItems_of_equal equal] at ranked
          rw [compareItems_of_equal (equal_trans (equal_symm head) equal)]
          exact ih restX restY restZ ranked
        · rw [compareItems_of_differ laws freeX freeZ equal] at ranked
          rw [compareItems_of_differ laws freeY freeZ fun other => equal (equal_trans head other)]
          exact laws.congr freeX freeY freeZ head ranked
  trans {xs ys zs} freeXs freeYs freeZs before after := by
    induction xs generalizing ys zs with
    | nil =>
      rw [compareItems_nil_left, Except.ok.injEq, Nat.compare_eq_lt] at before ⊢
      cases zs with
      | nil =>
        rw [compareItems_nil_right, Except.ok.injEq, Nat.compare_eq_lt] at after
        exact absurd after (Nat.not_lt_zero _)
      | cons z zs => exact Nat.succ_pos zs.length
    | cons x xs ih =>
      cases ys with
      | nil =>
        rw [compareItems_nil_right, Except.ok.injEq, Nat.compare_eq_lt] at before
        exact absurd before (Nat.not_lt_zero _)
      | cons y ys =>
        cases zs with
        | nil =>
          rw [compareItems_nil_right, Except.ok.injEq, Nat.compare_eq_lt] at after
          exact absurd after (Nat.not_lt_zero _)
        | cons z zs =>
          obtain ⟨freeX, restX⟩ := List.forall_mem_cons.mp freeXs
          obtain ⟨freeY, restY⟩ := List.forall_mem_cons.mp freeYs
          obtain ⟨freeZ, restZ⟩ := List.forall_mem_cons.mp freeZs
          by_cases first : s.equal x y = true
          · rw [compareItems_of_equal first] at before
            by_cases second : s.equal y z = true
            · rw [compareItems_of_equal second] at after
              rw [compareItems_of_equal (equal_trans first second)]
              exact ih restX restY restZ before after
            · rw [compareItems_of_differ laws freeY freeZ second] at after
              rw [compareItems_of_differ laws freeX freeZ fun other =>
                second (equal_trans (equal_symm first) other)]
              exact laws.congr freeY freeX freeZ (equal_symm first) after
          · rw [compareItems_of_differ laws freeX freeY first] at before
            have less : order x z = .ok .lt := by
              by_cases second : s.equal y z = true
              · exact laws.congr_right freeX freeY freeZ second before
              · rw [compareItems_of_differ laws freeY freeZ second] at after
                exact laws.trans freeX freeY freeZ before after
            have differ : ¬ s.equal x z = true := by
              intro equal
              cases laws.eq_of_same freeX freeZ equal less
            rw [compareItems_of_differ laws freeX freeZ differ]
            exact less

end Items

/-! ### Values -/

section Values

variable {items : List Value → List Value → Except Cause Ordering}

/-- The pairs of values that have an order, with the order. -/
inductive Ranked (s : Store) (items : List Value → List Value → Except Cause Ordering) :
    Value → Value → Ordering → Prop
  | number {left right : Value} {a b : Number} : Number.of? left = some a →
      Number.of? right = some b → Ranked s items left right ((a.order? b).getD .eq)
  | str (i j : Nat) (a b : List Char) : Ranked s items (.str i a) (.str j b) (textOrder a b)
  | list {i j : Nat} {o : Ordering} : items (s.items i).toList (s.items j).toList = .ok o →
      Ranked s items (.list i) (.list j) o
  | tuple (i j : Nat) {xs ys : List Value} {o : Ordering} : items xs ys = .ok o →
      Ranked s items (.tuple i xs) (.tuple j ys) o

/-- Exactly the ranked pairs have an order. -/
theorem compareWith_eq_ok_iff {left right : Value} {o : Ordering} :
    s.compareWith items left right = .ok o ↔ s.Ranked items left right o := by
  constructor
  · intro ranked
    unfold compareWith at ranked
    split at ranked
    case h_1 a b first second =>
      rw [← Except.ok.inj ranked]
      exact .number first second
    case h_2 =>
      split at ranked
      case h_1 =>
        rw [← Except.ok.inj ranked]
        exact .str _ _ _ _
      case h_2 => exact .list ranked
      case h_3 => exact .tuple _ _ ranked
      case h_4 => cases ranked
  · intro ranked
    cases ranked with
    | number first second => simp only [compareWith, first, second]
    | str i j a b => rfl
    | list ranked => exact ranked
    | tuple i j ranked => exact ranked

/-- **If sequences have the laws, values have the laws.** -/
theorem values_laws (laws : OrderLaws (fun xs => ∀ v ∈ xs, s.NanFree v)
    (List.Forall₂ (s.equal · · = true)) items) :
    OrderLaws s.NanFree (s.equal · · = true) (s.compareWith items) where
  swap {left right o} freeLeft freeRight ranked := by
    rw [compareWith_eq_ok_iff] at ranked ⊢
    cases ranked with
    | number first second =>
      have turned := Number.order_laws.swap (freeLeft.number first) (freeRight.number second) rfl
      rw [← Except.ok.inj turned]
      exact .number second first
    | str i j a b =>
      rw [← textOrder_swap]
      exact .str j i b a
    | list ranked => exact .list (laws.swap freeLeft.items freeRight.items ranked)
    | tuple i j ranked => exact .tuple j i (laws.swap freeLeft.elements freeRight.elements ranked)
  tie {left right} freeLeft freeRight tied := by
    rw [compareWith_eq_ok_iff] at tied
    rw [equal_iff_matches]
    generalize eq : Ordering.eq = o at tied
    cases tied with
    | number first second =>
      exact .number first second (Number.order_laws.tie (freeLeft.number first)
        (freeRight.number second) (congrArg Except.ok eq.symm))
    | str i j a b =>
      rw [eq_of_textOrder eq.symm]
      exact .str i j b
    | list ranked => exact .list (laws.tie freeLeft.items freeRight.items (eq ▸ ranked))
    | tuple i j ranked =>
      exact .tuple i j (laws.tie freeLeft.elements freeRight.elements (eq ▸ ranked))
  congr {left right third o} freeLeft freeRight freeThird same ranked := by
    rw [compareWith_eq_ok_iff] at ranked ⊢
    rw [equal_iff_matches] at same
    cases same with
    | number first second same =>
      cases ranked with
      | number first' other =>
        cases first.symm.trans first'
        have ranked := Number.order_laws.congr (freeLeft.number first) (freeRight.number second)
          (freeThird.number other) same rfl
        rw [← Except.ok.inj ranked]
        exact .number second other
      | str | list | tuple => cases first
    | str i j text =>
      cases ranked with
      | number first => cases first
      | str _ k _ other => exact .str j k text other
    | sameList place => exact ranked
    | list related =>
      cases ranked with
      | number first => cases first
      | list ranked =>
        exact .list (laws.congr freeLeft.items freeRight.items freeThird.items related ranked)
    | tuple i j related =>
      cases ranked with
      | number first => cases first
      | tuple _ k ranked =>
        exact .tuple j k (laws.congr freeLeft.elements freeRight.elements freeThird.elements
          related ranked)
    | null | sameDict | dict | range =>
      cases ranked with
      | number first => cases first
    | lazy kind =>
      cases ranked with
      | number first => exact absurd kind (Value.not_isLazy_of_number first)
      | str | list | tuple => simp [Value.IsLazy, Value.type] at kind
  trans {first second third} freeFirst freeSecond freeThird before after := by
    rw [compareWith_eq_ok_iff] at before after ⊢
    -- the order is named before the cases, which could not invert one that is fixed
    obtain ⟨o, less, before⟩ : ∃ o, .lt = o ∧ s.Ranked items first second o := ⟨_, rfl, before⟩
    obtain ⟨o', less', after⟩ : ∃ o, .lt = o ∧ s.Ranked items second third o := ⟨_, rfl, after⟩
    cases before with
    | number first second =>
      cases after with
      | number second' third =>
        cases second.symm.trans second'
        have ranked := Number.order_laws.trans (freeFirst.number first) (freeSecond.number second)
          (freeThird.number third) (congrArg Except.ok less.symm) (congrArg Except.ok less'.symm)
        rw [← Except.ok.inj ranked]
        exact .number first third
      | str | list | tuple => cases second
    | str i j a b =>
      cases after with
      | number second => cases second
      | str _ k _ c =>
        rw [← textOrder_trans less.symm less'.symm]
        exact .str i k a c
    | list before =>
      cases after with
      | number second => cases second
      | list after =>
        exact .list (laws.trans freeFirst.items freeSecond.items freeThird.items
          (less ▸ before) (less' ▸ after))
    | tuple i j before =>
      cases after with
      | number second => cases second
      | tuple _ k after =>
        exact .tuple i k (laws.trans freeFirst.elements freeSecond.elements freeThird.elements
          (less ▸ before) (less' ▸ after))

end Values

/-! ### All depths -/

/-- An order that always fails has the laws. -/
theorem laws_of_failing {α : Type} {Free : α → Prop} {Same : α → α → Prop} (cause : Cause) :
    OrderLaws Free Same fun _ _ => .error cause where
  swap := by
    intro a b o _ _ ranked
    cases ranked
  tie := by
    intro a b _ _ ranked
    cases ranked
  congr := by
    intro a b c o _ _ _ _ ranked
    cases ranked
  trans := by
    intro a b c _ _ _ ranked
    cases ranked

/-- **The order of values has the laws at every depth.** -/
theorem compareWithin_laws (depth : Nat) :
    OrderLaws s.NanFree (s.equal · · = true) (s.compareWithin depth) := by
  induction depth with
  | zero => exact values_laws (laws_of_failing .comparisonTooDeep)
  | succ depth ih => exact values_laws (items_laws ih)

/-- The order of values has the laws. -/
theorem compare_laws : OrderLaws s.NanFree (s.equal · · = true) s.compare :=
  compareWithin_laws depthLimit

end Store

end CallConsole
