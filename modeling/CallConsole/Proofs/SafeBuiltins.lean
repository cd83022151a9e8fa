/-
**Builtin functions are safe.**

An action is safe for a trait if it leads from a store, whether it succeeds or fails, only to stores
that have grown and hold values with the trait, and if its result is as it is described:

* `Safe.bind`, `safe_read`, `safe_create`, … : safe actions are put together from safe actions;
* `Builtin.body_safe`: whatever a builtin function is called with, if the arguments have the trait,
  it changes nothing that is there and yields a value with the trait.
-/

import CallConsole.Builtin
import CallConsole.Proofs.ProperTraversal
import CallConsole.Proofs.Sequencing

namespace CallConsole

open Store

namespace Action

variable {α β : Type} {trait : Trait} {s : Store}

/-- **From the store, the action leads only to stores that have grown** and hold values with the
trait, with a result as described if there is one. -/
structure Safe (trait : Trait) (s : Store) (action : Action α) (holds : Store → α → Prop) :
    Prop where
  ok {a : α} {s' : Store} : action s = .ok a s' → trait.Growth s s' ∧ holds s' a
  error {cause : Cause} {s' : Store} : action s = .error cause s' → trait.Growth s s'

/-- Nothing is asked of the result. -/
def anything : Store → α → Prop := fun _ _ => True

/-! ### Actions put together -/

theorem safe_fail (sound : trait.Sound s) (cause : Cause) {holds : Store → α → Prop} :
    Safe trait s (fail cause) holds where
  ok ran := nomatch ran
  error ran := by
    cases ran
    exact .refl sound

theorem safe_pure (sound : trait.Sound s) {holds : Store → α → Prop} {a : α} (result : holds s a) :
    Safe trait s (pure a) holds where
  ok ran := by
    cases ran
    exact ⟨.refl sound, result⟩
  error ran := nomatch ran

/-- **What comes next starts from where the first action led.** -/
theorem Safe.bind {first : Action α} {next : α → Action β} {holds : Store → α → Prop}
    {result : Store → β → Prop} (safe : Safe trait s first holds)
    (others : ∀ a s', trait.Growth s s' → holds s' a → Safe trait s' (next a) result) :
    Safe trait s (first >>= next) result where
  ok ran := by
    obtain ⟨a, s', middle, last⟩ := EStateM.exists_of_bind_ok ran
    obtain ⟨growth, held⟩ := safe.ok middle
    obtain ⟨growth', done⟩ := (others a s' growth held).ok last
    exact ⟨growth.trans growth', done⟩
  error ran := by
    rcases EStateM.error_of_bind ran with failed | ⟨a, s', middle, failed⟩
    · exact safe.error failed
    · obtain ⟨growth, held⟩ := safe.ok middle
      exact growth.trans ((others a s' growth held).error failed)

theorem Safe.map {action : Action α} {change : α → β} {holds : Store → α → Prop}
    {result : Store → β → Prop} (safe : Safe trait s action holds)
    (changed : ∀ s a, holds s a → result s (change a)) :
    Safe trait s (change <$> action) result where
  ok ran := by
    obtain ⟨a, done, rfl⟩ := EStateM.exists_of_map_ok ran
    obtain ⟨growth, held⟩ := safe.ok done
    exact ⟨growth, changed _ a held⟩
  error ran := safe.error (EStateM.error_of_map ran)

theorem safe_read (sound : trait.Sound s) {holds : Store → α → Prop} {f : Store → α}
    (result : holds s (f s)) : Safe trait s (read f) holds where
  ok ran := by
    cases ran
    exact ⟨.refl sound, result⟩
  error ran := nomatch ran

theorem safe_tryRead (sound : trait.Sound s) {holds : Store → α → Prop} {f : Store → Except Cause α}
    (result : ∀ a, f s = .ok a → holds s a) : Safe trait s (tryRead f) holds where
  ok ran := by
    obtain ⟨found, rfl⟩ := ok_of_tryRead ran
    exact ⟨.refl sound, result _ found⟩
  error ran := by
    obtain ⟨_, rfl⟩ := error_of_tryRead ran
    exact .refl sound

theorem safe_ask (sound : trait.Sound s) (f : Store → α) : Safe trait s (read f) anything :=
  safe_read sound trivial

theorem safe_tryAsk (sound : trait.Sound s) (f : Store → Except Cause α) :
    Safe trait s (tryRead f) anything :=
  safe_tryRead sound fun _ _ => trivial

theorem safe_make {holds : Store → α → Prop} {f : Store → α × Store}
    (made : trait.Growth s (f s).2 ∧ holds (f s).2 (f s).1) : Safe trait s (make f) holds where
  ok ran := by
    cases ran
    exact made
  error ran := nomatch ran

theorem safe_create (sound : trait.Sound s) {make : Nat → Value}
    (made : (make s.next).Made (trait.has s) s.next) :
    Safe trait s (Action.make (·.create make)) trait.has :=
  safe_make ⟨.create sound make, trait.made made⟩

theorem safe_null (sound : trait.Sound s) : Safe trait s null trait.has := safe_create sound .null

theorem safe_bool (sound : trait.Sound s) (b : Bool) : Safe trait s (bool b) trait.has :=
  safe_create sound (.bool b)

theorem safe_int (sound : trait.Sound s) (n : Integer) : Safe trait s (int n) trait.has :=
  safe_create sound (.int n)

theorem safe_float (sound : trait.Sound s) (x : Double) : Safe trait s (float x) trait.has :=
  safe_create sound (.float x)

theorem safe_str (sound : trait.Sound s) (text : List Char) : Safe trait s (str text) trait.has :=
  safe_create sound (.str text)

theorem safe_tuple (sound : trait.Sound s) {items : List Value} (all : trait.All s items) :
    Safe trait s (tuple items) trait.has :=
  safe_create sound (.tuple all)

theorem safe_range (sound : trait.Sound s) (r : Range) : Safe trait s (range r) trait.has :=
  safe_create sound (.range r)

theorem safe_list (sound : trait.Sound s) {items : List Value} (all : trait.All s items) :
    Safe trait s (Action.list items) trait.has :=
  safe_make ⟨.createList sound all, trait.has_createList s items⟩

theorem safe_dict (sound : trait.Sound s) {d : Dict} (held : trait.OfDict s d) :
    Safe trait s (Action.dict d) trait.has :=
  safe_make ⟨.createDict sound held, trait.has_createDict s d⟩

/-- A dict keeps the trait if a value with the trait is inserted under a key with the trait. -/
theorem safe_insertInto (sound : trait.Sound s) {d : Dict} (held : trait.OfDict s d) {k v : Value}
    (key : trait.has s k) (value : trait.has s v) :
    Safe trait s (insertInto d k v) trait.OfDict := by
  unfold insertInto
  split
  case h_1 replaced d' inserted => exact safe_pure sound (held.insert key value inserted)
  case h_2 => exact safe_fail sound _

/-- Each of several actions is safe where the ones before it led. -/
theorem safe_mapM {f : α → Action β} {holds : Store → β → Prop} (sound : trait.Sound s)
    (each : ∀ a s', trait.Sound s' → Safe trait s' (f a) holds) (as : List α) :
    Safe trait s (as.mapM f) anything := by
  induction as generalizing s with
  | nil => exact safe_pure sound trivial
  | cons a rest ih =>
    rw [List.mapM_cons]
    refine (each a s sound).bind fun b s' growth _ => ?_
    exact (ih growth.sound).bind fun bs s'' growth' _ => safe_pure growth'.sound trivial

/-! ### Traversals -/

variable {v : Value}

theorem safe_start (sound : trait.Sound s) (has : trait.has s v) :
    Safe trait s (start v) trait.OfCursor :=
  safe_tryRead sound fun _ opened => Trait.ofCursor_of_opened sound v has opened

theorem safe_elements (sound : trait.Sound s) (has : trait.has s v) :
    Safe trait s (elements v) trait.All := by
  refine (safe_start sound has).bind fun c s' growth traversed => ?_
  have drained : Safe trait s' (read c.drain)
      fun s items => ∀ item ∈ items, trait.OfItem s item := by
    refine safe_read growth.sound fun item member => ?_
    rw [Cursor.drain_eq] at member
    exact traversed.items growth.sound item member
  exact drained.bind fun items s₁ growth₁ each =>
    safe_make (Trait.OfItem.createAll items each growth₁.sound)

/-- Taking items one by one is safe if each of the steps is. -/
theorem safe_fold {take : α → Item → Action α} {holds : Store → α → Prop} {s₀ : Store}
    (sound₀ : trait.Sound s₀) (each : ∀ total item s, trait.Growth s₀ s → trait.OfItem s item →
      holds s total → Safe trait s (take total item) holds) {count : Nat} {c : Cursor}
    (traversed : trait.OfCursor s₀ c) {total : α} (growth : trait.Growth s₀ s)
    (held : holds s total) : Safe trait s (c.fold s₀ take count total) holds := by
  induction count generalizing s c total with
  | zero => exact safe_pure growth.sound held
  | succ count ih =>
    rcases Cursor.next_cases s₀ c with ⟨moved, stepped, _⟩ | ⟨item, moved, stepped, _⟩
    · rw [Cursor.fold, stepped]
      exact safe_pure growth.sound held
    · have first := traversed.item sound₀ stepped
      rw [Cursor.fold, stepped]
      refine (each total item s growth (first.lasts growth.extends) held).bind ?_
      intro total' s' growth' held'
      exact ih (traversed.moved stepped) (growth.trans growth') held'

theorem safe_foldElements (sound : trait.Sound s) (has : trait.has s v)
    {step : α → Value → Action α} {holds : Store → α → Prop} {total : α} (held : holds s total)
    (lasts : ∀ total s s', holds s total → trait.Growth s s' → holds s' total)
    (each : ∀ total element s, trait.Sound s → trait.has s element → holds s total →
      Safe trait s (step total element) holds) :
    Safe trait s (foldElements v step total) holds := by
  refine (safe_start sound has).bind fun c s₀ growth traversed => ?_
  have taking (total : α) (item : Item) (s : Store) (growth : trait.Growth s₀ s)
      (first : trait.OfItem s item) (held : holds s total) :
      Safe trait s (Action.make item.create >>= step total) holds := by
    have made : Safe trait s (Action.make item.create) trait.has :=
      safe_make (Trait.OfItem.create item first growth.sound)
    refine made.bind fun element s₁ growth₁ object => ?_
    exact each total element s₁ growth₁.sound object (lasts total s s₁ held growth₁)
  have now : Safe trait s₀ (read id) fun s s' => s' = s₀ ∧ s = s₀ :=
    safe_read growth.sound ⟨rfl, rfl⟩
  refine now.bind ?_
  rintro _ _ growth₀ ⟨rfl, rfl⟩
  exact safe_fold growth.sound taking traversed growth₀ (lasts total s _ held growth)

theorem safe_anyElement (sound : trait.Sound s) (has : trait.has s v)
    (test : Store → Value → Bool) : Safe trait s (anyElement v test) anything := by
  refine (safe_start sound has).bind fun c s' growth _ => ?_
  exact safe_read growth.sound trivial

end Action

/-! ### Builtin functions -/

namespace Builtin

open CallConsole.Action

variable {trait : Trait} {s : Store} {v : Value}

theorem expectIterable_safe (sound : trait.Sound s) (function : String) (v : Value) :
    Safe trait s (expectIterable function v) fun _ _ => v.iterable = true := by
  unfold expectIterable
  split
  case isTrue iterable => exact safe_pure sound iterable
  case isFalse => exact safe_fail sound _

theorem expectInteger_safe (sound : trait.Sound s) (function : String) (v : Value) :
    Safe trait s (expectInteger function v) anything := by
  unfold expectInteger
  split
  · exact safe_pure sound trivial
  · exact safe_fail sound _

theorem expectNumber_safe (sound : trait.Sound s) (function : String) (v : Value) :
    Safe trait s (expectNumber function v) anything := by
  unfold expectNumber
  split
  · exact safe_pure sound trivial
  · exact safe_fail sound _

theorem create_safe (sound : trait.Sound s) (number : Number) :
    Safe trait s number.create trait.has := by
  cases number with
  | int n => exact safe_int sound n
  | float x => exact safe_float sound x

theorem orTooLarge_safe (sound : trait.Sound s) (function : String) (result : Option Integer) :
    Safe trait s (orTooLarge function result) trait.has := by
  unfold orTooLarge
  split
  · exact safe_int sound _
  · exact safe_fail sound _

/-! #### Conversions and types -/

theorem strOf_safe (sound : trait.Sound s) (v : Value) : Safe trait s (strOf v) trait.has :=
  (safe_ask sound _).bind fun text _ growth _ => safe_str growth.sound text

theorem intOf_safe (sound : trait.Sound s) (v : Value) : Safe trait s (intOf v) trait.has := by
  unfold intOf
  split
  · exact safe_int sound _
  · exact safe_int sound _
  · exact (safe_tryAsk sound _).bind fun n _ growth _ => safe_int growth.sound n
  · exact (safe_tryAsk sound _).bind fun n _ growth _ => safe_int growth.sound n
  · exact safe_fail sound _

theorem floatOf_safe (sound : trait.Sound s) (v : Value) : Safe trait s (floatOf v) trait.has := by
  unfold floatOf
  split
  · exact safe_float sound _
  · exact safe_float sound _
  · exact safe_float sound _
  · exact (safe_tryAsk sound _).bind fun x _ growth _ => safe_float growth.sound x
  · exact safe_fail sound _

theorem boolOf_safe (sound : trait.Sound s) (v : Value) : Safe trait s (boolOf v) trait.has :=
  (safe_ask sound _).bind fun b _ growth _ => safe_bool growth.sound b

theorem chrOf_safe (sound : trait.Sound s) (v : Value) : Safe trait s (chrOf v) trait.has := by
  refine (expectInteger_safe sound "chr" v).bind fun code _ growth _ => ?_
  split
  · exact safe_str growth.sound _
  · exact safe_fail growth.sound _

theorem ordOf_safe (sound : trait.Sound s) (v : Value) : Safe trait s (ordOf v) trait.has := by
  unfold ordOf
  split
  · exact safe_int sound _
  · exact safe_fail sound _
  · exact safe_fail sound _

theorem typeOf_safe (sound : trait.Sound s) (v : Value) : Safe trait s (typeOf v) trait.has :=
  safe_str sound _

theorem isInstanceOf_safe (sound : trait.Sound s) (v types : Value) :
    Safe trait s (isInstanceOf v types) trait.has := by
  have answer (names : List Value) (s' : Store) (growth : trait.Growth s s') :
      Safe trait s' (tryRead (fun _ => isInstanceOfAny v names) >>= fun fits => Action.bool fits)
        trait.has :=
    (safe_tryAsk growth.sound _).bind fun fits _ growth' _ => safe_bool growth'.sound fits
  unfold isInstanceOf
  split
  · exact answer _ s (.refl sound)
  · exact (safe_ask sound _).bind fun names s' growth _ => answer names s' growth
  · exact (safe_ask sound _).bind fun names s' growth _ => answer names s' growth
  · exact (safe_fail sound _).bind fun names s' growth (_ : anything s' names) =>
      answer names s' growth

/-! #### Collections -/

theorem lenOf_safe (sound : trait.Sound s) (v : Value) : Safe trait s (lenOf v) trait.has := by
  cases v with
  | str | list | tuple | dict =>
    exact (safe_ask sound _).bind fun length _ growth _ => safe_int growth.sound _
  | _ => exact safe_fail sound _

theorem sortedOf_safe (sound : trait.Sound s) (has : trait.has s v) (descending : Option Value) :
    Safe trait s (sortedOf v descending) trait.has := by
  refine (expectIterable_safe sound "sorted" v).bind fun _ _ growth _ => ?_
  refine (safe_ask growth.sound _).bind fun down s₁ growth₁ _ => ?_
  have more := growth.extends.trans growth₁.extends
  refine (safe_elements growth₁.sound (trait.lasts has more)).bind fun items s₂ growth₂ all => ?_
  have sorted : Safe trait s₂ (tryRead (·.sort down items)) trait.All := by
    refine safe_tryRead growth₂.sound fun sorted done v member => ?_
    exact all v ((Sorting.sort_perm done).mem_iff.mp member)
  exact sorted.bind fun sorted _ growth₃ all => safe_list growth₃.sound all

theorem reversedOf_safe (sound : trait.Sound s) (has : trait.has s v) :
    Safe trait s (reversedOf v) trait.has := by
  have captured : Safe trait s (elements v >>= fun items =>
      Action.make (·.create (.reversed · items.reverse))) trait.has := by
    refine (safe_elements sound has).bind fun items s₁ growth all => ?_
    exact safe_create growth.sound (.reversed fun v member => all v (List.mem_reverse.mp member))
  cases v with
  | range _ r => exact safe_create sound (.reversedRange r)
  | reversedRange _ r => exact safe_create sound (.range r)
  | list | tuple | str | reversed => exact captured
  | _ => exact safe_fail sound _

theorem enumerateOf_safe (sound : trait.Sound s) (has : trait.has s v) (start : Option Value) :
    Safe trait s (enumerateOf v start) trait.has := by
  refine (expectIterable_safe sound "enumerate" v).bind fun _ s₁ growth iterable => ?_
  have made (first : Integer) (s₂ : Store) (growth₂ : trait.Growth s₁ s₂) :
      Safe trait s₂ (Action.make (·.create (.enumerate · v first))) trait.has :=
    safe_create growth₂.sound (.enumerate first
      (trait.lasts has (growth.extends.trans growth₂.extends)) iterable)
  cases start with
  | none => exact made 0 s₁ (.refl growth.sound)
  | some n =>
    exact (expectInteger_safe growth.sound _ n).bind fun first s₂ growth₂ _ =>
      made first s₂ growth₂

/-- If all the values can be traversed, that is all that is found out. -/
theorem forM_safe (sound : trait.Sound s) (sources : List Value) :
    Safe trait s (sources.forM (expectIterable "zip"))
      fun _ _ => ∀ v ∈ sources, v.iterable = true := by
  induction sources generalizing s with
  | nil => exact safe_pure sound fun v member => absurd member List.not_mem_nil
  | cons v rest ih =>
    refine Safe.bind (expectIterable_safe sound "zip" v) fun _ s' growth iterable => ?_
    rw [← id_map (rest.forM (expectIterable "zip"))]
    exact (ih growth.sound).map fun _ _ others => List.forall_mem_cons.mpr ⟨iterable, others⟩

theorem zipOf_safe (sound : trait.Sound s) {sources : List Value} (all : trait.All s sources) :
    Safe trait s (zipOf sources) trait.has := by
  refine (forM_safe sound sources).bind fun _ _ growth iterable => ?_
  exact safe_create growth.sound (.zip (all.lasts growth.extends) iterable)

theorem anyOf_safe (sound : trait.Sound s) (has : trait.has s v) :
    Safe trait s (anyOf v) trait.has := by
  refine (expectIterable_safe sound "any" v).bind fun _ _ growth _ => ?_
  refine (safe_anyElement growth.sound (trait.lasts has growth.extends) _).bind ?_
  exact fun found _ growth₁ _ => safe_bool growth₁.sound found

theorem allOf_safe (sound : trait.Sound s) (has : trait.has s v) :
    Safe trait s (allOf v) trait.has := by
  refine (expectIterable_safe sound "all" v).bind fun _ _ growth _ => ?_
  refine (safe_anyElement growth.sound (trait.lasts has growth.extends) _).bind ?_
  exact fun missing _ growth₁ _ => safe_bool growth₁.sound _

theorem listOf_safe (sound : trait.Sound s) (has : trait.has s v) :
    Safe trait s (listOf v) trait.has := by
  refine (expectIterable_safe sound "list" v).bind fun _ _ growth _ => ?_
  refine (safe_elements growth.sound (trait.lasts has growth.extends)).bind ?_
  exact fun items _ growth₁ all => safe_list growth₁.sound all

/-- A list or tuple with the trait holds items with the trait. -/
theorem sequence?_all (sound : trait.Sound s) (has : trait.has s v) {items : List Value}
    (found : s.sequence? v = some items) : trait.All s items := by
  cases v with
  | list place =>
    cases found
    exact fun v member => sound.items _ v (Array.mem_toList_iff.mp member)
  | tuple id items =>
    cases found
    exact trait.parts has
  | _ => cases found

theorem addPair_safe (sound : trait.Sound s) (has : trait.has s v) {progress : Nat × Dict}
    (held : trait.OfDict s progress.2) :
    Safe trait s (addPair progress v) fun s progress => trait.OfDict s progress.2 := by
  have asked : Safe trait s (Action.read (·.sequence? v))
      fun s found => ∀ items, found = some items → trait.All s items :=
    safe_read sound fun items found => sequence?_all sound has found
  obtain ⟨index, d⟩ := progress
  refine asked.bind fun found s₁ growth all => ?_
  split
  case h_1 key value =>
    have pair := all [key, value] rfl
    have inserted : Safe trait s₁ (insertInto d key value) trait.OfDict :=
      safe_insertInto growth.sound (held.lasts growth.extends) (pair key List.mem_cons_self)
        (pair value (List.mem_cons_of_mem _ List.mem_cons_self))
    exact inserted.bind fun changed _ growth₁ held => safe_pure growth₁.sound held
  case h_2 => exact safe_fail growth.sound _

theorem dictOf_safe (sound : trait.Sound s) (has : trait.has s v) :
    Safe trait s (dictOf v) trait.has := by
  unfold dictOf
  split
  case h_1 place =>
    have contents : Safe trait s (Action.read (·.contents place)) trait.OfDict :=
      safe_read sound (sound.contents place)
    exact contents.bind fun d _ growth held => safe_dict growth.sound held
  case h_2 =>
    refine (expectIterable_safe sound "dict" v).bind fun _ s₁ growth _ => ?_
    have folded : Safe trait s₁ (foldElements v addPair (0, Dict.empty))
        fun s progress => trait.OfDict s progress.2 := by
      refine safe_foldElements growth.sound (trait.lasts has growth.extends)
        (trait.ofDict_empty s₁) (fun progress s s' held growth => held.lasts growth.extends) ?_
      exact fun progress element s sound has held => addPair_safe sound has held
    exact folded.bind fun progress _ growth₁ held => safe_dict growth₁.sound held

theorem rangeOf_safe (sound : trait.Sound s) (start stop step : Integer) :
    Safe trait s (rangeOf start stop step) trait.has := by
  unfold rangeOf
  split
  · exact safe_range sound _
  · exact safe_fail sound _

theorem rangeOfBounds_safe (sound : trait.Sound s) (bounds : List Value) :
    Safe trait s (rangeOfBounds bounds) trait.has := by
  refine (safe_mapM sound (fun v s' sound => expectInteger_safe sound _ v) bounds).bind ?_
  intro ns _ growth _
  split
  · exact rangeOf_safe growth.sound _ _ _
  · exact rangeOf_safe growth.sound _ _ _
  · exact rangeOf_safe growth.sound _ _ _
  · exact safe_fail growth.sound _

/-! #### Numbers -/

theorem absOf_safe (sound : trait.Sound s) (v : Value) : Safe trait s (absOf v) trait.has := by
  refine (expectNumber_safe sound "abs" v).bind fun number _ growth _ => ?_
  split
  · exact orTooLarge_safe growth.sound _ _
  · exact safe_float growth.sound _

/-- The value found is one of those looked at. -/
theorem extremum_safe (wanted : Ordering) {rest : List Value} (sound : trait.Sound s)
    (has : trait.has s v) (others : trait.All s rest) :
    Safe trait s (extremum wanted v rest) trait.has := by
  induction rest generalizing s v with
  | nil => exact safe_pure sound has
  | cons next rest ih =>
    obtain ⟨first, others⟩ := List.forall_mem_cons.mp others
    refine (safe_tryAsk sound _).bind fun order _ growth _ => ?_
    refine ih growth.sound ?_ (Trait.All.lasts others growth.extends)
    split
    · exact trait.lasts first growth.extends
    · exact trait.lasts has growth.extends

theorem extremumAmong_safe (sound : trait.Sound s) (function : String) (wanted : Ordering)
    {candidates : List Value} (all : trait.All s candidates) :
    Safe trait s (extremumAmong function wanted candidates) trait.has := by
  cases candidates with
  | nil => exact safe_fail sound _
  | cons first rest =>
    obtain ⟨head, others⟩ := List.forall_mem_cons.mp all
    exact extremum_safe wanted sound head others

theorem extremumOf_safe (sound : trait.Sound s) (function : String) (wanted : Ordering)
    {arguments : List Value} (all : trait.All s arguments) :
    Safe trait s (extremumOf function wanted arguments) trait.has := by
  unfold extremumOf
  split
  case h_1 v =>
    refine (safe_elements sound (all v List.mem_cons_self)).bind ?_
    exact fun items s' growth all => extremumAmong_safe growth.sound function wanted all
  case h_2 => exact extremumAmong_safe sound function wanted all

theorem addTerm_safe (sound : trait.Sound s) (total term : Value) :
    Safe trait s (addTerm total term) trait.has := by
  unfold addTerm
  split
  · exact (safe_tryAsk sound _).bind fun sum _ growth _ => create_safe growth.sound sum
  · exact safe_fail sound _

theorem sumOf_safe (sound : trait.Sound s) (has : trait.has s v) {start : Option Value}
    (first : ∀ v ∈ start, trait.has s v) : Safe trait s (sumOf v start) trait.has := by
  have folded (total : Value) (s' : Store) (growth : trait.Growth s s')
      (there : trait.has s' total) :
      Safe trait s' (foldElements v addTerm total) trait.has := by
    refine safe_foldElements growth.sound (trait.lasts has growth.extends) there
      (fun total s s' held growth => trait.lasts held growth.extends) ?_
    exact fun total element s sound _ _ => addTerm_safe sound total element
  by_cases iterable : v.iterable = true
  · simp only [sumOf, iterable, if_true]
    cases start with
    | none =>
      refine (safe_int sound 0).bind fun total s' growth there => ?_
      exact folded total s' growth there
    | some v =>
      refine (expectNumber_safe sound "sum" v).bind fun _ s' growth _ => ?_
      exact folded v s' growth (trait.lasts (first v rfl) growth.extends)
  · simp only [sumOf, iterable, Bool.false_eq_true, if_false]
    exact safe_fail sound _

theorem doublePower_safe (sound : trait.Sound s) (base exponent : Double) :
    Safe trait s (doublePower base exponent) trait.has := by
  unfold doublePower
  split
  · exact safe_fail sound _
  · split
    · exact safe_float sound _
    · exact safe_fail sound _

theorem powOf_safe (sound : trait.Sound s) (base exponent : Value) :
    Safe trait s (powOf base exponent) trait.has := by
  refine (expectNumber_safe sound "pow" base).bind fun b _ growth _ => ?_
  refine (expectNumber_safe growth.sound "pow" exponent).bind fun e _ growth _ => ?_
  split
  · split
    · exact orTooLarge_safe growth.sound _ _
    · exact doublePower_safe growth.sound _ _
  · exact doublePower_safe growth.sound _ _

theorem sqrtOf_safe (sound : trait.Sound s) (v : Value) : Safe trait s (sqrtOf v) trait.has := by
  refine (expectNumber_safe sound "sqrt" v).bind fun number _ growth _ => ?_
  dsimp only
  split
  · exact safe_fail growth.sound _
  · exact safe_float growth.sound _

theorem rounded_safe (sound : trait.Sound s) (number : Number) (digits : Option Integer) :
    Safe trait s (rounded number digits) trait.has := by
  unfold rounded
  split
  · exact safe_int sound _
  · exact orTooLarge_safe sound _ _
  · exact (safe_tryAsk sound _).bind fun n _ growth _ => safe_int growth.sound n
  · exact safe_float sound _

theorem roundOf_safe (sound : trait.Sound s) (v : Value) (places : Option Value) :
    Safe trait s (roundOf v places) trait.has := by
  refine (expectNumber_safe sound "round" v).bind fun number s₁ growth _ => ?_
  split
  · exact rounded_safe growth.sound number none
  · exact rounded_safe growth.sound number none
  case h_3 p _ =>
    have asked : Safe trait s₁ (some <$> expectInteger "round" p) anything :=
      (expectInteger_safe growth.sound "round" p).map fun _ _ _ => trivial
    exact asked.bind fun digits s₂ growth₂ _ => rounded_safe growth₂.sound number digits

/-- **Whatever a function is called with**, if the arguments have the trait, it changes nothing
that is there, and what it yields has the trait. -/
theorem body_safe (sound : trait.Sound s) (function : Builtin) {arguments : List Value}
    (all : trait.All s arguments) : Safe trait s (function.body arguments) trait.has := by
  have one {v : Value} {rest : List Value} (all : trait.All s (v :: rest)) : trait.has s v :=
    all v List.mem_cons_self
  unfold body
  split
  · exact safe_str sound []
  · exact strOf_safe sound _
  · exact intOf_safe sound _
  · exact floatOf_safe sound _
  · exact safe_bool sound false
  · exact boolOf_safe sound _
  · exact chrOf_safe sound _
  · exact ordOf_safe sound _
  · exact lenOf_safe sound _
  · exact sortedOf_safe sound (one all) none
  · exact sortedOf_safe sound (one all) _
  · exact reversedOf_safe sound (one all)
  · exact enumerateOf_safe sound (one all) none
  · exact enumerateOf_safe sound (one all) _
  · exact zipOf_safe sound all
  · exact anyOf_safe sound (one all)
  · exact allOf_safe sound (one all)
  · exact safe_list sound (trait.all_nil s)
  · exact listOf_safe sound (one all)
  · exact safe_dict sound (trait.ofDict_empty s)
  · exact dictOf_safe sound (one all)
  · exact rangeOfBounds_safe sound _
  · exact absOf_safe sound _
  · exact extremumOf_safe sound "min" .lt all
  · exact extremumOf_safe sound "max" .gt all
  · exact sumOf_safe sound (one all) nofun
  case h_27 v start =>
    refine sumOf_safe sound (one all) ?_
    rintro _ ⟨⟩
    exact all start (List.mem_cons_of_mem _ List.mem_cons_self)
  · exact powOf_safe sound _ _
  · exact sqrtOf_safe sound _
  · exact roundOf_safe sound _ none
  · exact roundOf_safe sound _ _
  · exact typeOf_safe sound _
  · exact isInstanceOf_safe sound _ _
  · exact safe_fail sound _

end Builtin

end CallConsole
