/-
**Sums.**

A sum takes the elements of a value one by one, and sees of each of them no more than the number
that it is, or the type that it has instead. So it is a left fold over these terms, and it splits
wherever its elements do:

* `Total.add`, `Store.terms`: one more term, and the terms of a value;
* `AddsUp.fold`: what a traversal adds up is the fold over what is ahead of its cursor;
* `Builtin.sumOf_addsUp`: a sum is the fold over the terms of its value;
* `foldlM_integers`: integers are added up if every partial sum fits, and to the exact sum;
* `Builtin.sum_splits`: a sum over two sequences goes on from the sum over the first one.
-/

import CallConsole.Proofs.ProperTraversal
import CallConsole.Proofs.Runs
import Mathlib.Algebra.Ring.Int.Defs

namespace CallConsole

/-! ### Terms and totals -/

/-- What a sum sees of an element: a number, or a type that it cannot add. -/
inductive Term where
  | number (n : Number)
  | other (type : TypeName)

/-- What a sum is so far: a number, and the type of the object that it is. -/
structure Total where
  number : Number
  type : TypeName

namespace Total

/-- A number as an object of its own. -/
def ofNumber : Number → Total
  | .int n => ⟨.int n, .int⟩
  | .float x => ⟨.float x, .float⟩

/-- **One more term.** The sum of two numbers is an object of its own, whatever type the numbers had. -/
def add (total : Total) : Term → Except Cause Total
  | .number n => (total.number.add n).map ofNumber
  | .other type => .error (.notAddable total.type type)

/-- The value is a number of the given type. -/
structure Of (total : Total) (v : Value) : Prop where
  number : Number.of? v = some total.number
  type : v.type = total.type

end Total

/-- What a sum sees of a value. -/
def Value.term (v : Value) : Term :=
  match Number.of? v with
  | some n => .number n
  | none => .other v.type

namespace Item

/-- What a sum sees of an item. -/
def term : Item → Term
  | .object v => v.term
  | .char _ => .other .str
  | .int n => .number (.int n)
  | .numbered .. | .row _ => .other .tuple

/-- The object made for an item is seen as the item is. -/
theorem term_create (s : Store) (item : Item) : (item.create s).1.term = item.term := by
  cases item <;> rfl

mutual

/-- Making an item takes nothing out of the store. -/
theorem grows_create (s : Store) (item : Item) : s.Grows (item.create s).2 := by
  cases item with
  | object v => exact .refl s
  | char c => exact s.grows_create (.str · [c])
  | int n => exact s.grows_create (.int · n)
  | numbered index item =>
    have number := s.grows_create (.int · index)
    have inner := grows_create (s.create (.int · index)).2 item
    exact (number.trans inner).trans (Store.grows_create _ _)
  | row items => exact (grows_createAll s items).trans (Store.grows_create _ _)

theorem grows_createAll (s : Store) (items : List Item) : s.Grows (createAll s items).2 := by
  cases items with
  | nil => exact .refl s
  | cons item rest => exact (grows_create s item).trans (grows_createAll (item.create s).2 rest)

end

end Item

/-- **What a sum sees of the elements of a value.** -/
def Store.terms (s : Store) (v : Value) : List Term := (s.elements v).map Item.term

/-! ### Adding up -/

/-- An action adds up to a total if it yields an object for it and fails where there is none, in a
store that only grew. -/
inductive AddsUp (s : Store) : Except Cause Total → EStateM.Result Cause Store Value → Prop
  | total {total : Total} {v : Value} {s' : Store} : total.Of v → s.Grows s' →
      AddsUp s (.ok total) (.ok v s')
  | failure (cause : Cause) {s' : Store} : s.Grows s' →
      AddsUp s (.error cause) (.error cause s')

namespace AddsUp

variable {s : Store} {sum : Except Cause Total} {total : Total} {v : Value}

/-- What was added up in a store that had grown is added up in the first one. -/
theorem mono {before : Store} {ran : EStateM.Result Cause Store Value} (grows : before.Grows s)
    (adds : AddsUp s sum ran) : AddsUp before sum ran := by
  cases adds with
  | total of more => exact .total of (grows.trans more)
  | failure cause more => exact .failure cause (grows.trans more)

/-- **One after another.** The second action goes on with the total of the first one. -/
theorem bind {action : Action Value} (adds : AddsUp s sum (action s))
    {next : Total → Except Cause Total} {next' : Value → Action Value}
    (others : ∀ total v s', s.Grows s' → total.Of v → AddsUp s' (next total) (next' v s')) :
    AddsUp s (sum >>= next) ((action >>= next') s) := by
  cases ran : action s with
  | ok v s' =>
    rw [ran] at adds
    rw [EStateM.bind_of_ok ran]
    cases adds with
    | total of grows => exact (others _ v s' grows of).mono grows
  | error cause s' =>
    rw [ran] at adds
    rw [EStateM.bind_of_error ran]
    cases adds with
    | failure cause grows => exact .failure cause grows

/-- The object made for a number. -/
theorem create (s : Store) (n : Number) : AddsUp s (.ok (Total.ofNumber n)) (n.create s) := by
  cases n with
  | int n => exact .total ⟨rfl, rfl⟩ (s.grows_create (.int · n))
  | float x => exact .total ⟨rfl, rfl⟩ (s.grows_create (.float · x))

/-- **A term is added** to the object that the total is. -/
theorem addTerm (of : total.Of v) (element : Value) (s : Store) :
    AddsUp s (total.add element.term) (Builtin.addTerm v element s) := by
  unfold Builtin.addTerm Value.term
  rw [of.number]
  cases Number.of? element with
  | none =>
    show AddsUp s (.error (.notAddable total.type element.type))
      (.error (.notAddable v.type element.type) s)
    rw [of.type]
    exact .failure _ (.refl s)
  | some n =>
    rw [Total.add]
    dsimp only
    cases total.number.add n with
    | error cause => exact .failure cause (.refl s)
    | ok sum => exact .create s sum

/-- **A traversal adds up what is ahead of its cursor.** The elements are those of the store at its
start, and are made in the store that grows on the way. -/
theorem fold (start : Store) {count : Nat} {c : Cursor} (all : (c.ahead start).length ≤ count)
    (of : total.Of v) (s : Store) :
    AddsUp s (((c.ahead start).map Item.term).foldlM Total.add total)
      (c.fold start (fun v item => Action.make item.create >>= Builtin.addTerm v) count v s) := by
  rw [Cursor.fold_eq start _ all]
  generalize c.ahead start = items
  induction items generalizing s total v with
  | nil => exact .total of (.refl s)
  | cons item rest ih =>
    rw [List.map_cons, List.foldlM_cons, List.foldlM_cons]
    have made : AddsUp s (total.add item.term)
        ((Action.make item.create >>= Builtin.addTerm v) s) := by
      have added := addTerm of (item.create s).1 (item.create s).2
      rw [Item.term_create] at added
      exact added.mono (item.grows_create s)
    exact made.bind fun total' v' s' _ of' => ih of' s'

end AddsUp

/-! ### Values that can be traversed -/

namespace Store

variable {s s' : Store} {v : Value}

/-- The value can be traversed, and all that it refers to is in the store. -/
structure Traversable (s : Store) (v : Value) : Prop where
  proper : s.Proper v
  iterable : v.iterable = true

theorem Traversable.mono (traversable : s.Traversable v) (grows : s.Grows s') :
    s'.Traversable v :=
  ⟨traversable.proper.mono grows.covers, traversable.iterable⟩

/-- A value keeps its terms while the store grows. -/
theorem Traversable.terms_eq (traversable : s.Traversable v) (grows : s.Grows s') :
    s'.terms v = s.terms v := by
  rw [terms, terms, traversable.proper.elements_eq grows]

end Store

/-! ### Calls -/

/-- **Two sums come to the same**: to the same number as an object of the same type, or to the same
failure. -/
inductive SameSum : Except Failure Value → Except Failure Value → Prop
  | total {total : Total} {v v' : Value} : total.Of v → total.Of v' → SameSum (.ok v) (.ok v')
  | failure (failure : Failure) : SameSum (.error failure) (.error failure)

/-- What adds up to a total comes to an object for it. -/
theorem AddsUp.outcome_of_ok {w : World} {total : Total} {action : Action Value}
    (adds : AddsUp w.store (.ok total) (action w.store)) :
    ∃ v, total.Of v ∧ ((Run.act action).outcome w).1 = .ok v := by
  generalize ran : action w.store = result at adds
  cases adds with
  | total of => exact ⟨_, of, congrArg Prod.fst (Run.outcome_act_of_ok ran)⟩

/-- What does not add up comes to the failure. -/
theorem AddsUp.outcome_of_error {w : World} {cause : Cause} {action : Action Value}
    (adds : AddsUp w.store (.error cause) (action w.store)) :
    ((Run.act action).outcome w).1 = .error (.ofCause cause) := by
  generalize ran : action w.store = result at adds
  cases adds with
  | failure => exact congrArg Prod.fst (Run.outcome_act_of_error ran)

/-- What adds up to the same comes to the same. -/
theorem AddsUp.sameSum {w : World} {sum : Except Cause Total} {action action' : Action Value}
    (adds : AddsUp w.store sum (action w.store)) (adds' : AddsUp w.store sum (action' w.store)) :
    SameSum ((Run.act action).outcome w).1 ((Run.act action').outcome w).1 := by
  cases sum with
  | ok total =>
    obtain ⟨v, of, done⟩ := adds.outcome_of_ok
    obtain ⟨v', of', done'⟩ := adds'.outcome_of_ok
    rw [done, done']
    exact .total of of'
  | error cause =>
    rw [adds.outcome_of_error, adds'.outcome_of_error]
    exact .failure _

namespace Builtin

variable {s : Store} {v start : Value} {total : Total}

/-- **A sum is a left fold over the terms of a value**, from its start on. -/
theorem sumOf_addsUp (traversable : s.Traversable v) (of : total.Of start) :
    AddsUp s ((s.terms v).foldlM Total.add total) (sumOf v (some start) s) := by
  obtain ⟨c, opened⟩ := traversable.proper.opens traversable.iterable
  have folded := AddsUp.fold s (Nat.le_of_eq (Cursor.length_ahead s c)) of s
  rw [Store.cursor_elements v opened] at folded
  have expected : Action.expectNumber "sum" start s = .ok total.number s := by
    rw [Action.expectNumber, of.number]
    rfl
  have ran : sumOf v (some start) s = Action.foldElements v addTerm start s := by
    simp only [sumOf, traversable.iterable, if_true]
    rw [EStateM.bind_of_ok expected]
    rfl
  have started : Action.start v s = .ok c s := Action.tryRead_of_ok opened
  rw [ran, Action.foldElements, EStateM.bind_of_ok started]
  exact folded

/-- A call of `sum` with a start does what the function does. -/
theorem invoke_sum (v start : Value) :
    invoke "sum" [v, start] = Run.act (sumOf v (some start)) := by
  have found : find? "sum" = some .sum := rfl
  have accepts : (arity .sum).Accepts [v, start].length := ⟨Nat.le_succ 1, Nat.le_refl 2⟩
  funext w
  rw [invoke, found]
  exact call_of_accepts accepts

/-- A sum that goes on from another one adds up the terms of both. -/
theorem sumOf_sumOf_addsUp {first second : Value} (before : s.Traversable first)
    (behind : s.Traversable second) (of : total.Of start) :
    AddsUp s ((s.terms first ++ s.terms second).foldlM Total.add total)
      ((sumOf first (some start) >>= fun v => sumOf second (some v)) s) := by
  rw [List.foldlM_append]
  refine (sumOf_addsUp before of).bind fun total' v s' grows of' => ?_
  rw [← behind.terms_eq grows]
  exact sumOf_addsUp (behind.mono grows) of'

end Builtin

/-! ### Integers -/

/-- What stands in front of the integers, and the sum of the first so many of them. -/
def partialSum (first : Int) (ns : List Integer) (count : Nat) : Int :=
  first + ((ns.take count).map Int64.toInt).sum

theorem partialSum_cons (first : Int) (n : Integer) (ns : List Integer) (count : Nat) :
    partialSum first (n :: ns) (count + 1) = partialSum (first + n.toInt) ns count := by
  rw [partialSum, partialSum, List.take_succ_cons, List.map_cons, List.sum_cons, Int.add_assoc]

/-- **Every sum on the way fits a word**, from the one with the first of the integers on. -/
def PartialSumsFit (first : Int) (ns : List Integer) : Prop :=
  ∀ count, 0 < count → count ≤ ns.length → Integer.Fits (partialSum first ns count)

theorem partialSumsFit_cons {first : Int} {n : Integer} {ns : List Integer} :
    PartialSumsFit first (n :: ns) ↔
      Integer.Fits (first + n.toInt) ∧ PartialSumsFit (first + n.toInt) ns := by
  have next : partialSum first (n :: ns) 1 = first + n.toInt := by
    rw [partialSum_cons, partialSum, List.take_zero, List.map_nil, List.sum_nil, Int.add_zero]
  constructor
  · intro fit
    refine ⟨next ▸ fit 1 Nat.one_pos (Nat.succ_le_succ (Nat.zero_le _)), fun count _ inside => ?_⟩
    rw [← partialSum_cons]
    exact fit (count + 1) (Nat.succ_pos count) (Nat.succ_le_succ inside)
  · rintro ⟨one, others⟩ count some inside
    obtain ⟨count, rfl⟩ := Nat.exists_eq_succ_of_ne_zero (Nat.ne_of_gt some)
    cases count with
    | zero => rwa [next]
    | succ count =>
      rw [partialSum_cons]
      exact others (count + 1) (Nat.succ_pos count) (Nat.le_of_succ_le_succ inside)

/-- **Integers are added up exactly**, if every sum on the way fits a word. -/
theorem foldlM_integers {first : Integer} {ns : List Integer}
    (fit : PartialSumsFit first.toInt ns) (type : TypeName) : ∃ word type',
      (ns.map fun n => Term.number (.int n)).foldlM Total.add ⟨.int first, type⟩ =
        .ok ⟨.int word, type'⟩ ∧
      word.toInt = partialSum first.toInt ns ns.length := by
  induction ns generalizing first type with
  | nil => exact ⟨first, type, rfl, (Int.add_zero _).symm⟩
  | cons n ns ih =>
    obtain ⟨one, others⟩ := partialSumsFit_cons.mp fit
    obtain ⟨next, found⟩ := Integer.exists_ofInt?_iff.mpr one
    have denotes := Integer.ofInt?_eq_some_iff.mp found
    rw [← denotes] at others
    obtain ⟨word, type', folded, exact⟩ := ih others .int
    refine ⟨word, type', ?_, ?_⟩
    · rw [List.map_cons, List.foldlM_cons, Total.add, Number.add, found]
      exact folded
    · rw [exact, denotes, List.length_cons, partialSum_cons]

/-- The first sum that does not fit ends the addition. -/
theorem foldlM_integers_error {first : Integer} {ns : List Integer}
    (exceeds : ¬ PartialSumsFit first.toInt ns) (type : TypeName) :
    (ns.map fun n => Term.number (.int n)).foldlM Total.add ⟨.int first, type⟩ =
      .error .sumTooLarge := by
  induction ns generalizing first type with
  | nil => exact absurd (fun count some inside => absurd inside (Nat.not_le_of_lt some)) exceeds
  | cons n ns ih =>
    rw [List.map_cons, List.foldlM_cons, Total.add, Number.add]
    cases found : Integer.ofInt? (first.toInt + n.toInt) with
    | none => rfl
    | some next =>
      have denotes := Integer.ofInt?_eq_some_iff.mp found
      have fits := Integer.exists_ofInt?_iff.mp ⟨next, found⟩
      refine ih (fun others => exceeds ?_) .int
      rw [denotes] at others
      exact partialSumsFit_cons.mpr ⟨fits, others⟩

namespace Builtin

/-- **A sum is a left fold that splits anywhere.** For every numeric start, and a value whose elements
are seen by a sum as those of a first value and then those of a second one, the sum over it comes to
what the sum over the second one comes to that starts with the sum over the first one: to the same
number as an object of the same type, or to the same failure, which may be that of the first sum. If
the start and all elements are integers or booleans, a sum succeeds exactly if every sum on the way
fits a word, and is exact; otherwise it fails with a wrong value. -/
theorem sum_splits {w : World} {start : Value} {number : Number}
    (numeric : Number.of? start = some number) :
    (∀ first second whole : Value, w.store.Traversable first → w.store.Traversable second →
      w.store.Traversable whole →
      w.store.terms whole = w.store.terms first ++ w.store.terms second →
      SameSum ((invoke "sum" [whole, start]).outcome w).1
        ((invoke "sum" [first, start] >>= fun total => invoke "sum" [second, total]).outcome w).1) ∧
    ∀ (v : Value) (n : Integer) (ns : List Integer), number = .int n → w.store.Traversable v →
      w.store.terms v = ns.map (fun n => .number (.int n)) →
      let sum := ((invoke "sum" [v, start]).outcome w).1
      ((∃ total, sum = .ok total) ↔ PartialSumsFit n.toInt ns) ∧
      (∀ total, sum = .ok total → ∃ word, Number.of? total = some (.int word) ∧
        word.toInt = partialSum n.toInt ns ns.length) ∧
      ∀ failure, sum = .error failure → ∃ cause, failure = .ofCause cause ∧ cause.kind = .value := by
  have of : Total.Of ⟨number, start.type⟩ start := ⟨numeric, rfl⟩
  refine ⟨fun first second whole before behind all joined => ?_, ?_⟩
  · have joint := sumOf_sumOf_addsUp before behind of
    rw [← joined] at joint
    simp only [invoke_sum]
    rw [← Run.act_bind]
    exact (sumOf_addsUp all of).sameSum joint
  · rintro v n ns rfl traversable integers
    have adds := sumOf_addsUp traversable of
    rw [integers] at adds
    rw [invoke_sum]
    by_cases fit : PartialSumsFit n.toInt ns
    · obtain ⟨word, type, folded, exact⟩ := foldlM_integers fit start.type
      rw [folded] at adds
      obtain ⟨sum, denotes, done⟩ := adds.outcome_of_ok
      rw [done]
      refine ⟨⟨fun _ => fit, fun _ => ⟨sum, rfl⟩⟩, ?_, fun _ failed => nomatch failed⟩
      rintro _ ⟨⟩
      exact ⟨word, denotes.number, exact⟩
    · rw [foldlM_integers_error fit] at adds
      rw [adds.outcome_of_error]
      refine ⟨⟨?_, fun fits => absurd fits fit⟩, ?_, ?_⟩
      · rintro ⟨_, ⟨⟩⟩
      · rintro _ ⟨⟩
      · rintro _ ⟨⟩
        exact ⟨_, rfl, rfl⟩

/-- From `true` on, the greatest word, minus one and a text are added up in two parts as in one, and
fail. The two words have a sum that fits, but the first sum on the way does not. -/
theorem sum_splits_words_and_text :
    let max := Value.int 0 Int64.maxValue
    let one := Value.int 1 (-1)
    let text := Value.str 2 ['a']
    let start := Value.bool 3 true
    SameSum ((invoke "sum" [.tuple 4 [max, one, text], start]).outcome World.empty).1
      ((invoke "sum" [.tuple 5 [max, one], start] >>= fun total =>
        invoke "sum" [text, total]).outcome World.empty).1 ∧
    ¬ ∃ total, ((invoke "sum" [.tuple 5 [max, one], start]).outcome World.empty).1 = .ok total := by
  intro max one text start
  have traversable (id : Nat) : ∀ items ⊆ [max, one, text],
      World.empty.store.Traversable (.tuple id items) := by
    intro items among
    refine ⟨.tuple id fun item member => ?_, rfl⟩
    have found := among member
    simp only [List.mem_cons, List.not_mem_nil, or_false] at found
    rcases found with rfl | rfl | rfl
    · exact .int ..
    · exact .int ..
    · exact .str ..
  have words := traversable 5 [max, one] (List.sublist_append_left [max, one] [text]).subset
  obtain ⟨splits, integers⟩ := @sum_splits World.empty start (.int 1) rfl
  refine ⟨splits _ _ _ words ⟨.str _ _, rfl⟩ (traversable 4 _ (List.Subset.refl _)) rfl, ?_⟩
  have sums := integers (.tuple 5 [max, one]) 1 [Int64.maxValue, -1] rfl words rfl
  intro done
  exact absurd (sums.1.mp done 1 Nat.one_pos (by decide)) (by decide)

end Builtin

end CallConsole
