/-
**Three ways of building a dict.**

A dict display evaluates and inserts one entry after another. A call of `dict` evaluates a list of
pairs first, and goes through it afterwards. And items can be set in a dict that is empty at first.
All three put the same keys and values into a dict in the same order, or stop at the same key:

* `Console.evaluate_display`, `Console.evaluate_dict_call`, `fillDict_of_ok`: what each way
  makes of pairs of values, `Console.MakesDict`;
* `Console.exists_specimens`, `Console.evaluatePairs_copies`, `Console.evaluateAll_tuples`: the
  pairs that the three ways come to are pairs of copies;
* `Console.dict_ways_agree`: so the dicts agree, or all of them fail at one key.
-/

import CallConsole.Proofs.AlikeDicts
import CallConsole.Proofs.Changes
import CallConsole.Proofs.Reevaluation

namespace CallConsole

/-! ### Setting items -/

/-- Sets items, one after another. -/
def setItems (on : Value) : List (Value × Value) → Run Unit
  | [] => pure ()
  | (k, v) :: rest => do
    Run.act (Action.setItem on k v)
    setItems on rest

/-- **Sets items in a dict that is empty at first.** -/
def fillDict (pairs : List (Value × Value)) : Run Value := do
  let on ← Run.act (Action.dict Dict.empty)
  setItems on pairs
  pure on

/-- What a dict has been filled with, it could have been made of. -/
theorem Store.replaceDict_createDict (s : Store) (d d' : Dict) :
    (s.createDict d).2.replaceDict s.dicts.size d' = (s.createDict d').2 := by
  have same : (s.dicts.push d).modify s.dicts.size (fun _ => d') = s.dicts.push d' := by
    apply Array.ext_getElem?
    intro place
    rw [Array.getElem?_modify, Array.getElem?_push, Array.getElem?_push]
    by_cases last : place = s.dicts.size
    · rw [if_pos last, if_pos last.symm, if_pos last]
      rfl
    · rw [if_neg last, if_neg (Ne.symm last), if_neg last]
  rw [replaceDict, createDict, createDict, same]

/-- A key with a slot is written. -/
theorem setItem_createDict {s : Store} {sink : Sink} {d : Dict} {k v : Value} {slot : Slot}
    (hashed : Slot.of? k = .ok slot) :
    Run.act (Action.setItem (.dict s.dicts.size) k v) ⟨(s.createDict d).2, sink⟩ =
      .ok () ⟨(s.createDict (d.put ⟨slot, k, v, hashed⟩)).2, sink⟩ := by
  have there : (s.createDict d).2.contents s.dicts.size = d :=
    (Store.contents_createDict s d _).trans (if_pos rfl)
  rw [Run.act_of_ok (Action.setItem_dict_of_ok _ _ hashed v), there, Store.replaceDict_createDict]

/-- A key without a slot is not. -/
theorem setItem_of_error {place : Nat} {w : World} {k v : Value} {cause : Cause}
    (failed : Slot.of? k = .error cause) :
    Run.act (Action.setItem (.dict place) k v) w = .error (.ofCause cause) w :=
  Run.act_of_error (Action.setItem_dict_of_error w.store place failed v)

/-- **Items are set as pairs are put into a dict.** -/
theorem setItems_createDict {s : Store} {sink : Sink} {d d' : Dict} {pairs : List (Value × Value)}
    (all : d.insertAll pairs = .ok d') :
    setItems (.dict s.dicts.size) pairs ⟨(s.createDict d).2, sink⟩ =
      .ok () ⟨(s.createDict d').2, sink⟩ := by
  induction pairs generalizing d with
  | nil =>
    cases all
    rfl
  | cons pair rest ih =>
    obtain ⟨k, v⟩ := pair
    cases hashed : Slot.of? k with
    | error cause =>
      rw [Dict.insertAll_cons_of_error d hashed] at all
      cases all
    | ok slot =>
      rw [Dict.insertAll_cons_of_ok d hashed] at all
      rw [setItems, EStateM.bind_of_ok (setItem_createDict hashed)]
      exact ih all

/-- The dict is filled with the pairs, if all keys have slots. -/
theorem fillDict_of_ok {w : World} {d : Dict} {pairs : List (Value × Value)}
    (all : Dict.empty.insertAll pairs = .ok d) :
    fillDict pairs w = .ok (.dict w.store.dicts.size) ⟨(w.store.createDict d).2, w.sink⟩ := by
  have made : Run.act (Action.dict Dict.empty) w =
      .ok (.dict w.store.dicts.size) ⟨(w.store.createDict Dict.empty).2, w.sink⟩ := rfl
  rw [fillDict, EStateM.bind_of_ok made, EStateM.bind_of_ok (setItems_createDict all)]
  rfl

/-! ### Making a dict of a list of pairs -/

/-- Elements of a list are taken one by one. -/
theorem Action.foldElements_list {α : Type} (s : Store) (place : Nat) (step : α → Value → Action α)
    (total : α) :
    foldElements (.list place) step total s = (s.items place).toList.foldlM step total s := by
  have ahead : (Cursor.live place 0).ahead s = (s.items place).toList.map .object := by
    rw [Cursor.ahead, List.drop_zero]
  have opened : start (.list place) s = .ok (.live place 0) s := rfl
  have here : read id s = .ok s s := rfl
  have enough := Nat.le_of_eq (Cursor.length_ahead s (.live place 0))
  rw [foldElements, EStateM.bind_of_ok opened, EStateM.bind_of_ok here,
    Cursor.fold_eq s _ enough, ahead, List.foldlM_map]
  rfl

/-- The items are tuples of the pairs. -/
def TupleOf (item : Value) (pair : Value × Value) : Prop :=
  ∃ id, item = .tuple id [pair.1, pair.2]

/-- **Tuples are added as their pairs are put into a dict.** -/
theorem Builtin.foldlM_addPair {items : List Value} {pairs : List (Value × Value)}
    (tuples : List.Forall₂ TupleOf items pairs) (s : Store) (index : Nat) (d : Dict) :
    items.foldlM addPair (index, d) s =
      match d.insertAll pairs with
      | .ok d' => .ok (index + pairs.length, d') s
      | .error cause => .error cause s := by
  induction tuples generalizing index d with
  | nil => rfl
  | @cons item pair rest rest' first _ ih =>
    obtain ⟨k, v⟩ := pair
    obtain ⟨id, rfl⟩ := first
    rw [List.foldlM_cons]
    cases hashed : Slot.of? k with
    | error cause =>
      have failed : addPair (index, d) (.tuple id [k, v]) s = .error cause s :=
        EStateM.bind_of_error (Action.insertInto_of_error d hashed v s) _
      rw [Dict.insertAll_cons_of_error d hashed, EStateM.bind_of_error failed]
    | ok slot =>
      have added : addPair (index, d) (.tuple id [k, v]) s =
          .ok (index + 1, d.put ⟨slot, k, v, hashed⟩) s :=
        EStateM.bind_of_ok (Action.insertInto_of_ok d hashed v s) _
      rw [Dict.insertAll_cons_of_ok d hashed, List.length_cons, Nat.add_comm rest'.length,
        ← Nat.add_assoc, EStateM.bind_of_ok added]
      exact ih (index + 1) (d.put ⟨slot, k, v, hashed⟩)

/-- **`dict` of a list of pairs** puts the pairs into a dict. -/
theorem Builtin.dictOf_list {s : Store} {place : Nat} {pairs : List (Value × Value)}
    (tuples : List.Forall₂ TupleOf (s.items place).toList pairs) :
    dictOf (.list place) s =
      match Dict.empty.insertAll pairs with
      | .ok d => .ok (.dict s.dicts.size) (s.createDict d).2
      | .error cause => .error cause s := by
  have expected : Action.expectIterable "dict" (.list place) s = .ok () s := rfl
  have folded := (Action.foldElements_list s place addPair (0, Dict.empty)).trans
    (foldlM_addPair tuples s 0 Dict.empty)
  refine (EStateM.bind_of_ok expected _).trans ?_
  cases all : Dict.empty.insertAll pairs with
  | error cause =>
    rw [all] at folded
    exact EStateM.bind_of_error folded _
  | ok d =>
    rw [all] at folded
    exact EStateM.bind_of_ok folded _

/-! ### Pairs of copies -/

/-- The two specimens are what the two expressions come to. -/
def PairOf (x : Specimen × Specimen) (entry : Expression × Expression) : Prop :=
  x.1.Of entry.1 ∧ x.2.Of entry.2

/-- The two values are copies of the two specimens. -/
def PairCopied (s : Store) (x : Specimen × Specimen) (pair : Value × Value) : Prop :=
  x.1.Copied s pair.1 ∧ x.2.Copied s pair.2

/-- The expression is a pair of the two expressions, at places of their own. -/
def PairExpression (e : Expression) (entry : Expression × Expression) : Prop :=
  ∃ span key value, e = .tuple span [key, value] ∧ key.placeless = entry.1.placeless ∧
    value.placeless = entry.2.placeless

variable {xs : List (Specimen × Specimen)} {entries : List (Expression × Expression)}
  {pairs pairs' : List (Value × Value)} {s s' : Store} {w w' : World}

theorem PairCopied.mono {x : Specimen × Specimen} {pair : Value × Value}
    (copied : PairCopied s x pair) (grows : s.Grows s') : PairCopied s' x pair :=
  ⟨copied.1.mono grows, copied.2.mono grows⟩

/-- Copies of the same specimens are alike. -/
theorem forall₂_pairAlike (copied : List.Forall₂ (PairCopied s) xs pairs)
    (copied' : List.Forall₂ (PairCopied s') xs pairs') :
    List.Forall₂ (PairAlike s s') pairs pairs' := by
  induction copied generalizing pairs' with
  | nil =>
    cases copied'
    exact .nil
  | cons first _ ih =>
    cases copied' with
    | cons first' rest' =>
      exact .cons ⟨⟨_, first.1, first'.1⟩, ⟨_, first.2, first'.2⟩⟩ (ih rest')

namespace Console

/-- **Evaluates pairs**: key and value, one pair after another. -/
def evaluatePairs : List (Expression × Expression) → Run (List (Value × Value))
  | [] => pure []
  | (key, value) :: rest => do
    let k ← evaluate key
    let v ← evaluate value
    let pairs ← evaluatePairs rest
    pure ((k, v) :: pairs)

/-- The first pair is evaluated, and then the others. -/
theorem exists_of_evaluatePairs_cons {entry : Expression × Expression}
    (ran : evaluatePairs (entry :: entries) w = .ok pairs w') :
    ∃ k w₁ v w₂ rest, evaluate entry.1 w = .ok k w₁ ∧ evaluate entry.2 w₁ = .ok v w₂ ∧
      evaluatePairs entries w₂ = .ok rest w' ∧ pairs = (k, v) :: rest := by
  rw [evaluatePairs] at ran
  obtain ⟨k, w₁, key, ran⟩ := EStateM.exists_of_bind_ok ran
  obtain ⟨v, w₂, value, ran⟩ := EStateM.exists_of_bind_ok ran
  obtain ⟨rest, w₃, others, ran⟩ := EStateM.exists_of_bind_ok ran
  cases ran
  exact ⟨k, w₁, v, w₂, rest, key, value, others, rfl⟩

/-- **There are values that all evaluations of the pairs come to copies of.** -/
theorem exists_specimens (ran : evaluatePairs entries w = .ok pairs w') :
    ∃ xs, List.Forall₂ PairOf xs entries := by
  induction entries generalizing w pairs with
  | nil => exact ⟨[], .nil⟩
  | cons entry rest ih =>
    obtain ⟨k, w₁, v, w₂, others, key, value, later, -⟩ := exists_of_evaluatePairs_cons ran
    obtain ⟨x, ofKey⟩ := exists_specimen key
    obtain ⟨y, ofValue⟩ := exists_specimen value
    obtain ⟨xs, each⟩ := ih later
    exact ⟨(x, y) :: xs, .cons ⟨ofKey, ofValue⟩ each⟩

/-- **The pairs are copies of these values**, in a store that has only grown. -/
theorem evaluatePairs_copies (each : List.Forall₂ PairOf xs entries)
    (ran : evaluatePairs entries w = .ok pairs w') :
    List.Forall₂ (PairCopied w'.store) xs pairs ∧ w.store.Grows w'.store := by
  induction each generalizing w pairs with
  | nil =>
    cases ran
    exact ⟨.nil, .refl _⟩
  | @cons x entry xs rest of _ ih =>
    obtain ⟨k, w₁, v, w₂, others, key, value, later, rfl⟩ := exists_of_evaluatePairs_cons ran
    obtain ⟨copied, grows⟩ := of.1.copied rfl key
    obtain ⟨copied', grows'⟩ := of.2.copied rfl value
    obtain ⟨copies, grows''⟩ := ih later
    refine ⟨.cons ⟨copied.mono (grows'.trans grows''), copied'.mono grows''⟩ copies, ?_⟩
    exact (grows.trans grows').trans grows''

/-- A pair is evaluated to a pair of copies wherever its two expressions can be evaluated. -/
theorem evaluate_pair {x : Specimen × Specimen} {entry : Expression × Expression} {e : Expression}
    (of : PairOf x entry) (written : PairExpression e entry) {w₁ w₂ : World} {k v : Value}
    (key : evaluate entry.1 w = .ok k w₁) (value : evaluate entry.2 w₁ = .ok v w₂) (s : Store) :
    ∃ id k' v' s', evaluate e ⟨s, w.sink⟩ = .ok (.tuple id [k', v']) ⟨s', w₂.sink⟩ ∧
      PairCopied s' x (k', v') ∧ s.Grows s' := by
  obtain ⟨span, key', value', rfl, same, same'⟩ := written
  -- only the sink decides whether an evaluation succeeds, so it is the one that goes along
  obtain ⟨k', s₁, ran⟩ := evaluate_again (evaluate_of_placeless same key) s
  obtain ⟨v', s₂, ran'⟩ := evaluate_again (evaluate_of_placeless same' value) s₁
  obtain ⟨copied, grows⟩ := of.1.copied same ran
  obtain ⟨copied', grows'⟩ := of.2.copied same' ran'
  have made := s₂.grows_create (.tuple · [k', v'])
  refine ⟨s₂.next, k', v', _, ?_, ⟨copied.mono (grows'.trans made), copied'.mono made⟩,
    (grows.trans grows').trans made⟩
  have both : evaluateAll [key', value'] ⟨s, w.sink⟩ = .ok [k', v'] ⟨s₂, w₂.sink⟩ := by
    simp only [evaluateAll, Bind.bind, EStateM.bind, ran, ran']
    rfl
  rw [evaluate, EStateM.bind_of_ok both]
  rfl

/-- **Written as pairs, the expressions are evaluated to pairs of copies**, too. -/
theorem evaluateAll_tuples {tuples : List Expression} (each : List.Forall₂ PairOf xs entries)
    (written : List.Forall₂ PairExpression tuples entries)
    (ran : evaluatePairs entries w = .ok pairs w') (s : Store) :
    ∃ items pairs' s', evaluateAll tuples ⟨s, w.sink⟩ = .ok items ⟨s', w'.sink⟩ ∧
      List.Forall₂ TupleOf items pairs' ∧ List.Forall₂ (PairCopied s') xs pairs' ∧
      s.Grows s' := by
  induction each generalizing w pairs tuples s with
  | nil =>
    cases written
    cases ran
    exact ⟨[], [], s, rfl, .nil, .nil, .refl s⟩
  | @cons x entry xs rest of _ ih =>
    cases written with
    | cons first others =>
      obtain ⟨k, w₁, v, w₂, rest, key, value, later, -⟩ := exists_of_evaluatePairs_cons ran
      obtain ⟨id, k', v', s₁, made, copied, grows⟩ := evaluate_pair of first key value s
      obtain ⟨items, pairs', s₂, done, tuples, copies, grows'⟩ := ih others later s₁
      refine ⟨_, (k', v') :: pairs', s₂, ?_, .cons ⟨id, rfl⟩ tuples,
        .cons (copied.mono grows') copies, grows.trans grows'⟩
      rw [evaluateAll, EStateM.bind_of_ok made, EStateM.bind_of_ok done]
      rfl

/-! ### The three ways -/

/-- **The run puts the pairs into a dict**, which it makes in the store; or it fails with the cause
of the first key that has no slot. -/
structure MakesDict (run : Run Value) (w : World) (pairs : List (Value × Value)) (s : Store)
    (span : Option Span) : Prop where
  ok : ∀ d, Dict.empty.insertAll pairs = .ok d →
    ∃ sink, run w = .ok (.dict s.dicts.size) ⟨(s.createDict d).2, sink⟩
  error : ∀ cause, Dict.empty.insertAll pairs = .error cause →
    ∃ reached, run w = .error (.diagnostic ⟨cause, span, []⟩) reached

/-- The entries of a display are evaluated and inserted, one after another. -/
theorem evaluateEntries_of_pairs (ran : evaluatePairs entries w = .ok pairs w') (d : Dict) :
    (∀ d', d.insertAll pairs = .ok d' → evaluateEntries d entries w = .ok d' w') ∧
    ∀ cause, d.insertAll pairs = .error cause →
      ∃ reached, evaluateEntries d entries w = .error (.ofCause cause) reached := by
  induction entries generalizing w pairs d with
  | nil =>
    cases ran
    refine ⟨?_, nofun⟩
    rintro _ ⟨⟩
    rfl
  | cons entry rest ih =>
    obtain ⟨k, w₁, v, w₂, others, key, value, later, rfl⟩ := exists_of_evaluatePairs_cons ran
    rw [evaluateEntries, EStateM.bind_of_ok key, EStateM.bind_of_ok value]
    cases hashed : Slot.of? k with
    | error cause =>
      rw [Dict.insertAll_cons_of_error d hashed]
      refine ⟨nofun, ?_⟩
      rintro _ ⟨⟩
      exact ⟨w₂, EStateM.bind_of_error
        (Run.act_of_error (Action.insertInto_of_error d hashed v w₂.store)) _⟩
    | ok slot =>
      have inserted : Run.act (Action.insertInto d k v) w₂ =
          .ok (d.put ⟨slot, k, v, hashed⟩) w₂ :=
        Run.act_of_ok (Action.insertInto_of_ok d hashed v w₂.store)
      rw [Dict.insertAll_cons_of_ok d hashed, EStateM.bind_of_ok inserted]
      exact ih later _

/-- **A display puts the pairs into a dict.** -/
theorem evaluate_display (ran : evaluatePairs entries w = .ok pairs w') (span : Span) :
    MakesDict (evaluate (.dict span entries)) w pairs w'.store none := by
  obtain ⟨done, failed⟩ := evaluateEntries_of_pairs ran Dict.empty
  constructor
  · intro d all
    refine ⟨w'.sink, ?_⟩
    rw [evaluate, EStateM.bind_of_ok (done d all)]
    rfl
  · intro cause first
    obtain ⟨reached, refused⟩ := failed cause first
    refine ⟨reached, ?_⟩
    rw [evaluate]
    exact EStateM.bind_of_error refused _

/-- A call of `dict` with a list of pairs puts the pairs into a dict. -/
theorem invoke_dict {place : Nat} (tuples : List.Forall₂ TupleOf (w.store.items place).toList pairs)
    (span : Span) : MakesDict
      ((Builtin.invoke "dict" [.list place]).mapDiagnostic (·.blame span)) w pairs w.store
      (some span) := by
  have found : Builtin.find? "dict" = some .dict := rfl
  have accepts : (Builtin.arity .dict).Accepts [Value.list place].length :=
    ⟨Nat.zero_le 1, Nat.le_refl 1⟩
  have called := Builtin.outcome_invoke (w := w) found nofun accepts
  have dict := Builtin.dictOf_list tuples
  constructor
  · intro d all
    rw [all] at dict
    have ran := Run.ok_of_outcome (called.trans (Run.outcome_act_of_ok dict))
    refine ⟨w.sink, ?_⟩
    rw [Run.mapDiagnostic, ran]
  · intro cause first
    rw [first] at dict
    have refused := Run.error_of_outcome (called.trans (Run.outcome_act_of_error dict))
    refine ⟨w, ?_⟩
    rw [Run.mapDiagnostic, refused]
    rfl

/-- **A call of `dict` puts pairs of copies into a dict.** -/
theorem evaluate_dict_call {tuples : List Expression} (each : List.Forall₂ PairOf xs entries)
    (written : List.Forall₂ PairExpression tuples entries)
    (ran : evaluatePairs entries w = .ok pairs w') (span span' : Span) :
    ∃ pairs' s, List.Forall₂ (PairCopied s) xs pairs' ∧
      MakesDict (evaluate (.call span "dict" [.list span' tuples])) w pairs' s (some span) := by
  obtain ⟨items, pairs', s, done, made, copies, _⟩ := evaluateAll_tuples each written ran w.store
  have list : evaluate (.list span' tuples) w =
      .ok (.list s.lists.size) ⟨(s.createList items).2, w'.sink⟩ := by
    rw [evaluate, EStateM.bind_of_ok done]
    rfl
  have listed : evaluateAll [.list span' tuples] w =
      .ok [.list s.lists.size] ⟨(s.createList items).2, w'.sink⟩ := by
    rw [evaluateAll, EStateM.bind_of_ok list]
    rfl
  have held : ((s.createList items).2.items s.lists.size).toList = items :=
    congrArg Array.toList ((Store.items_createList s items _).trans (if_pos rfl))
  have makes := invoke_dict (w := ⟨(s.createList items).2, w'.sink⟩) (held.symm ▸ made) span
  have grows := s.grows_createList items
  refine ⟨pairs', (s.createList items).2, copies.imp fun _ _ copied => copied.mono grows, ?_⟩
  constructor
  · intro d all
    rw [evaluate, EStateM.bind_of_ok listed]
    exact makes.ok d all
  · intro cause first
    rw [evaluate, EStateM.bind_of_ok listed]
    exact makes.error cause first

/-- **The three ways of building a dict agree**, wherever the pairs are evaluated. Either all keys
have slots, and a display, a call of `dict` and items that are set one after another make dicts that
agree; or there is a first key that has none, and all three fail there, with the same cause. -/
theorem dict_ways_agree {tuples : List Expression} {w₁ w₁' w₂ w₂' w₃ w₃' : World}
    {pairs₁ pairs₂ pairs₃ : List (Value × Value)}
    (written : List.Forall₂ PairExpression tuples entries)
    (ran₁ : evaluatePairs entries w₁ = .ok pairs₁ w₁')
    (ran₂ : evaluatePairs entries w₂ = .ok pairs₂ w₂')
    (ran₃ : evaluatePairs entries w₃ = .ok pairs₃ w₃') (span₁ span₂ span : Span) :
    (∃ p₁ u₁ p₂ u₂ p₃ u₃, (∀ pair ∈ pairs₃, ∃ slot, Slot.of? pair.1 = .ok slot) ∧
      evaluate (.dict span₁ entries) w₁ = .ok (.dict p₁) u₁ ∧
      evaluate (.call span₂ "dict" [.list span tuples]) w₂ = .ok (.dict p₂) u₂ ∧
      fillDict pairs₃ w₃' = .ok (.dict p₃) u₃ ∧ Agree u₁.store u₂.store p₁ p₂ ∧
      Agree u₁.store u₃.store p₁ p₃ ∧ Agree u₂.store u₃.store p₂ p₃) ∨
    ∃ before k v behind cause u₁ u₂ p₃ u₃, pairs₃ = before ++ (k, v) :: behind ∧
      (∀ pair ∈ before, ∃ slot, Slot.of? pair.1 = .ok slot) ∧ Slot.of? k = .error cause ∧
      evaluate (.dict span₁ entries) w₁ = .error (.diagnostic ⟨cause, none, []⟩) u₁ ∧
      evaluate (.call span₂ "dict" [.list span tuples]) w₂ =
        .error (.diagnostic ⟨cause, some span₂, []⟩) u₂ ∧
      fillDict before w₃' = .ok (.dict p₃) u₃ ∧
      Run.act (Action.setItem (.dict p₃) k v) u₃ = .error (.diagnostic ⟨cause, none, []⟩) u₃ := by
  obtain ⟨xs, each⟩ := exists_specimens ran₁
  obtain ⟨copies₁, _⟩ := evaluatePairs_copies each ran₁
  obtain ⟨copies₃, _⟩ := evaluatePairs_copies each ran₃
  obtain ⟨pairs₂', s₂, copies₂, called⟩ := evaluate_dict_call each written ran₂ span₂ span
  have shown := evaluate_display ran₁ span₁
  have set := @fillDict_of_ok w₃'
  -- the items that are set decide which case it is, and copies of them come to the same
  have alike₁₂ := forall₂_pairAlike copies₁ copies₂
  have alike₁₃ := forall₂_pairAlike copies₁ copies₃
  have alike₃₁ := forall₂_pairAlike copies₃ copies₁
  rcases Dict.insertAll_cases Dict.empty pairs₃ with
    ⟨d₃, all₃, hashed⟩ | ⟨before, k, v, behind, cause, d₃, split, some₃, hashed, failed, all₃⟩
  · obtain ⟨d₁, all₁, _⟩ := DictAlike.insertAll_of_ok alike₃₁ all₃
    obtain ⟨d₂, all₂, dicts₁₂⟩ := DictAlike.insertAll_of_ok alike₁₂ all₁
    obtain ⟨_, same, dicts₁₃⟩ := DictAlike.insertAll_of_ok alike₁₃ all₁
    cases all₃.symm.trans same
    obtain ⟨_, same, dicts₂₃⟩ :=
      DictAlike.insertAll_of_ok (forall₂_pairAlike copies₂ copies₃) all₂
    cases all₃.symm.trans same
    obtain ⟨sink₁, made₁⟩ := shown.ok d₁ all₁
    obtain ⟨sink₂, made₂⟩ := called.ok d₂ all₂
    exact .inl ⟨_, _, _, _, _, _, hashed, made₁, made₂, set all₃, .of_alike dicts₁₂,
      .of_alike dicts₁₃, .of_alike dicts₂₃⟩
  · have all₁ := DictAlike.insertAll_of_error alike₃₁ all₃
    have all₂ := DictAlike.insertAll_of_error alike₁₂ all₁
    obtain ⟨u₁, refused₁⟩ := shown.error cause all₁
    obtain ⟨u₂, refused₂⟩ := called.error cause all₂
    exact .inr ⟨before, k, v, behind, cause, u₁, u₂, _, _, split, hashed, failed, refused₁,
      refused₂, set some₃, setItem_of_error failed⟩

/-- Pairs whose keys are equal, but of different types. -/
def truthPairs : List (Expression × Expression) :=
  [(.literal ⟨1, 2⟩ (.int 1), .literal ⟨4, 7⟩ (.str ['a'])),
    (.literal ⟨9, 13⟩ (.bool true), .literal ⟨15, 18⟩ (.str ['b']))]

/-- The same pairs as they are written in a list. -/
def truthTuples : List Expression :=
  [.tuple ⟨6, 14⟩ [.literal ⟨7, 8⟩ (.int 1), .literal ⟨10, 13⟩ (.str ['a'])],
    .tuple ⟨16, 27⟩ [.literal ⟨17, 21⟩ (.bool true), .literal ⟨23, 26⟩ (.str ['b'])]]

theorem dict_ways_agree_truths :
    ∃ pairs w p₁ u₁ p₂ u₂ p₃ u₃, evaluatePairs truthPairs World.empty = .ok pairs w ∧
      evaluate (.dict ⟨0, 19⟩ truthPairs) World.empty = .ok (.dict p₁) u₁ ∧
      evaluate (.call ⟨0, 29⟩ "dict" [.list ⟨5, 28⟩ truthTuples]) World.empty =
        .ok (.dict p₂) u₂ ∧
      fillDict pairs w = .ok (.dict p₃) u₃ ∧ Agree u₁.store u₂.store p₁ p₂ ∧
      Agree u₁.store u₃.store p₁ p₃ ∧ Agree u₂.store u₃.store p₂ p₃ := by
  have written : List.Forall₂ PairExpression truthTuples truthPairs :=
    .cons ⟨_, _, _, rfl, rfl, rfl⟩ (.cons ⟨_, _, _, rfl, rfl, rfl⟩ .nil)
  have ran : evaluatePairs truthPairs World.empty = .ok _ _ := rfl
  rcases dict_ways_agree written ran ran ran ⟨0, 19⟩ ⟨0, 29⟩ ⟨5, 28⟩ with
    ⟨p₁, u₁, p₂, u₂, p₃, u₃, _, agree⟩ | ⟨_, _, _, _, _, _, _, _, _, _, _, _, refused, _⟩
  · exact ⟨_, _, p₁, u₁, p₂, u₂, p₃, u₃, ran, agree⟩
  · cases refused

/-- A pair whose value is compared by identity. -/
def zipPair : Expression × Expression :=
  (.literal ⟨1, 2⟩ (.int 1), .call ⟨4, 9⟩ "zip" [])

/-- A dict of such a pair. -/
def zipDict (key value : Nat) : Dict := Dict.empty.put ⟨.int 1, .int key 1, .zip value [], rfl⟩

/-- There is no NaN in it. -/
theorem nanFree_zipDict {place key value : Nat} (filled : s.contents place = zipDict key value) :
    s.NanFree (.dict place) := by
  refine Store.nanFree_of_forall not_false fun v holds => ?_
  cases holds with
  | key member =>
    rw [filled] at member
    cases List.mem_singleton.mp member
    exact Store.nanFree_number rfl rfl
  | value member =>
    rw [filled] at member
    cases List.mem_singleton.mp member
    exact Store.nanFree_of_forall not_false nofun

/-- **Such dicts are not equal**, unless they hold the same object. -/
theorem equal_zipDicts {place place' key key' value value' : Nat}
    (filled : s.contents place = zipDict key value)
    (filled' : s.contents place' = zipDict key' value') (apart : place ≠ place')
    (objects : value ≠ value') : s.equal (.dict place) (.dict place') = false := by
  refine Bool.eq_false_iff.mpr fun same => ?_
  cases Store.equal_iff_matches.mp same with
  | number first => cases first
  | lazy kind => simp [Value.IsLazy, Value.type] at kind
  | sameDict => exact apart rfl
  | dict entries =>
    rw [filled, filled'] at entries
    obtain ⟨f, member, _, values⟩ := entries.values _ (List.mem_singleton.mpr rfl)
    cases List.mem_singleton.mp member
    cases Store.equal_iff_matches.mp values with
    | number first => cases first
    | lazy _ _ same => exact objects (Identity.object.inj (of_decide_eq_true same))

/-- Dicts of this pair have the same text, and are not equal. -/
theorem dict_ways_of_zipPair : ∃ u u',
    evaluate (.dict ⟨0, 10⟩ [zipPair]) World.empty = .ok (.dict 0) u ∧
    evaluate (.call ⟨0, 18⟩ "dict" [.list ⟨5, 17⟩ [.tuple ⟨6, 16⟩ [zipPair.1, zipPair.2]]]) u =
      .ok (.dict 1) u' ∧
    u'.store.NanFree (.dict 0) ∧ u'.store.NanFree (.dict 1) ∧
    u'.store.equal (.dict 0) (.dict 1) = false := by
  let s : Store :=
    ⟨#[#[.tuple 4 [.int 2 1, .zip 3 []]]], #[zipDict 0 1, zipDict 2 3], 5⟩
  have first : s.contents 0 = zipDict 0 1 := rfl
  have second : s.contents 1 = zipDict 2 3 := rfl
  exact ⟨_, ⟨s, Sink.empty⟩, rfl, rfl, nanFree_zipDict first, nanFree_zipDict second,
    equal_zipDicts first second Nat.zero_ne_one (by decide)⟩

end Console

end CallConsole
