/-
**Functions above other objects.**

What a function does above the objects of a store is what it does without them, put above. This is
said of actions one by one and lasts when they are put together:

* `Lifts.bind`, `lifts_read`, `lifts_create`, … : lifted actions are put together from lifted
  actions;
* `Builtin.body_lifts`: every builtin function does the same above;
* `Builtin.check_lifts`: and so does the check of the number of its arguments.
-/

import CallConsole.Proofs.RelocatedCursors
import CallConsole.Proofs.Sequencing

namespace CallConsole

namespace Action

variable {α β γ δ : Type} {base : Store}

/-- **Above the objects of a store, the one action does what the other does**, with its result moved
there, and a failure leaves above what it leaves below. -/
def Lifts (base : Store) (move : α → β) (action : Action α) (upper : Action β) : Prop :=
  ∀ s, upper (base.above s) =
    match action s with
    | .ok a s' => .ok (move a) (base.above s')
    | .error cause s' => .error cause (base.above s')

/-! ### Actions put together -/

theorem lifts_pure (move : α → β) (a : α) : Lifts base move (pure a) (pure (move a)) :=
  fun _ => rfl

theorem lifts_fail (move : α → β) (cause : Cause) : Lifts base move (fail cause) (fail cause) :=
  fun _ => rfl

/-- **What comes next starts above where the first action led.** -/
theorem Lifts.bind {first : Action α} {first' : Action β} {next : α → Action γ}
    {next' : β → Action δ} {move : α → β} {move' : γ → δ} (lifts : Lifts base move first first')
    (others : ∀ a, Lifts base move' (next a) (next' (move a))) :
    Lifts base move' (first >>= next) (first' >>= next') := by
  intro s
  have led := lifts s
  cases ran : first s with
  | error cause s' =>
    rw [ran] at led
    rw [EStateM.bind_of_error ran, EStateM.bind_of_error led]
  | ok a s' =>
    rw [ran] at led
    rw [EStateM.bind_of_ok ran, EStateM.bind_of_ok led]
    exact others a s'

theorem Lifts.map {action : Action α} {upper : Action β} {move : α → β} (f : α → γ) (f' : β → δ)
    {move' : γ → δ} (lifts : Lifts base move action upper)
    (same : ∀ a, f' (move a) = move' (f a)) : Lifts base move' (f <$> action) (f' <$> upper) := by
  intro s
  have led := lifts s
  cases ran : action s with
  | error cause s' =>
    rw [ran] at led
    rw [EStateM.map_of_error ran, EStateM.map_of_error led]
  | ok a s' =>
    rw [ran] at led
    rw [EStateM.map_of_ok ran, EStateM.map_of_ok led, same]

theorem lifts_read {move : α → β} {f : Store → α} {f' : Store → β}
    (same : ∀ s, f' (base.above s) = move (f s)) : Lifts base move (read f) (read f') :=
  fun s => congrArg (EStateM.Result.ok · (base.above s)) (same s)

theorem lifts_tryRead {move : α → β} {f : Store → Except Cause α} {f' : Store → Except Cause β}
    (same : ∀ s, f' (base.above s) = (f s).map move) :
    Lifts base move (tryRead f) (tryRead f') := by
  intro s
  rw [tryRead, tryRead, same]
  cases f s <;> rfl

/-- What does not look at the store finds the same. -/
theorem lifts_try (found : Except Cause α) :
    Lifts base id (tryRead fun _ => found) (tryRead fun _ => found) :=
  lifts_tryRead fun _ => by cases found <;> rfl

theorem lifts_make {move : α → β} {f : Store → α × Store} {f' : Store → β × Store}
    (same : ∀ s, f' (base.above s) = (move (f s).1, base.above (f s).2)) :
    Lifts base move (make f) (make f') :=
  fun s => congrArg (fun made : β × Store => EStateM.Result.ok made.1 made.2) (same s)

theorem lifts_create {make make' : Nat → Value}
    (same : ∀ id, make' (base.next + id) = (make id).above base) :
    Lifts base (Value.above base) (Action.make (·.create make)) (Action.make (·.create make')) :=
  lifts_make fun s => congrArg (·, base.above { s with next := s.next + 1 }) (same s.next)

theorem lifts_null : Lifts base (Value.above base) null null := lifts_create fun _ => rfl

theorem lifts_bool (b : Bool) : Lifts base (Value.above base) (bool b) (bool b) :=
  lifts_create fun _ => rfl

theorem lifts_int (n : Integer) : Lifts base (Value.above base) (int n) (int n) :=
  lifts_create fun _ => rfl

theorem lifts_float (x : Double) : Lifts base (Value.above base) (float x) (float x) :=
  lifts_create fun _ => rfl

theorem lifts_str (text : List Char) : Lifts base (Value.above base) (str text) (str text) :=
  lifts_create fun _ => rfl

theorem lifts_range (r : Range) : Lifts base (Value.above base) (range r) (range r) :=
  lifts_create fun _ => rfl

theorem lifts_tuple (items : List Value) :
    Lifts base (Value.above base) (tuple items) (tuple (items.map (Value.above base))) :=
  lifts_create fun id => by rw [Value.above, Value.aboveAll_eq_map]

theorem lifts_list (items : List Value) :
    Lifts base (Value.above base) (Action.list items)
      (Action.list (items.map (Value.above base))) :=
  lifts_make fun s => base.createList_above s items

theorem lifts_dict (d : Dict) :
    Lifts base (Value.above base) (Action.dict d) (Action.dict (d.above base)) :=
  lifts_make fun s => base.createDict_above s d

/-- A key is inserted above as it is below. -/
theorem lifts_insertInto (d : Dict) (key value : Value) :
    Lifts base (Dict.above base) (insertInto d key value)
      (insertInto (d.above base) (key.above base) (value.above base)) := by
  intro s
  cases hashed : Slot.of? key with
  | error cause =>
    have failed := (Slot.of?_above base key).trans hashed
    rw [insertInto_of_error d hashed, insertInto_of_error _ failed]
  | ok slot =>
    have found := (Slot.of?_above base key).trans hashed
    rw [insertInto_of_ok d hashed, insertInto_of_ok _ found]
    have put := d.put_above base ⟨slot, key, value, hashed⟩
    exact congrArg (EStateM.Result.ok · (base.above s)) put

/-! ### Arguments -/

variable {v : Value}

theorem lifts_expectInteger (function : String) (v : Value) :
    Lifts base id (expectInteger function v) (expectInteger function (v.above base)) := by
  unfold expectInteger
  rw [Value.integer?_above, Value.type_above]
  split
  · exact lifts_pure id _
  · exact lifts_fail id _

theorem lifts_expectNumber (function : String) (v : Value) :
    Lifts base id (expectNumber function v) (expectNumber function (v.above base)) := by
  unfold expectNumber
  rw [Number.of?_above, Value.type_above]
  split
  · exact lifts_pure id _
  · exact lifts_fail id _

theorem lifts_expectIterable (function : String) (v : Value) :
    Lifts base id (expectIterable function v) (expectIterable function (v.above base)) := by
  unfold expectIterable
  rw [Value.iterable_above, Value.type_above]
  split
  · exact lifts_pure id _
  · exact lifts_fail id _

theorem lifts_start (v : Value) :
    Lifts base (Cursor.above base) (start v) (start (v.above base)) :=
  lifts_tryRead fun s => base.cursor_above s v

theorem lifts_elements (v : Value) :
    Lifts base (List.map (Value.above base)) (elements v) (elements (v.above base)) := by
  refine (lifts_start v).bind fun c => ?_
  have drained : Lifts base (List.map (Item.above base)) (read c.drain)
      (read (c.above base).drain) :=
    lifts_read fun s => c.drain_above base s
  refine drained.bind fun items => lifts_make fun s => ?_
  rw [← Item.aboveAll_eq_map]
  exact Item.createAll_above base s items

/-- A fold over what is above does what the fold below does, if its steps do. -/
theorem lifts_fold {move : α → β} {step : α → Item → Action α} {step' : β → Item → Action β}
    (each : ∀ total item, Lifts base move (step total item) (step' (move total) (item.above base)))
    (s : Store) (count : Nat) (c : Cursor) (total : α) :
    Lifts base move (c.fold s step count total)
      ((c.above base).fold (base.above s) step' count (move total)) := by
  induction count generalizing c total with
  | zero => exact lifts_pure move total
  | succ count ih =>
    rw [Cursor.fold, Cursor.fold, Cursor.next_above]
    cases c.next s with
    | mk item moved =>
      cases item with
      | none => exact lifts_pure move total
      | some item => exact (each total item).bind fun total => ih moved total

theorem lifts_foldElements {move : α → β} {step : α → Value → Action α}
    {step' : β → Value → Action β}
    (each : ∀ total element,
      Lifts base move (step total element) (step' (move total) (element.above base)))
    (v : Value) (total : α) :
    Lifts base move (foldElements v step total)
      (foldElements (v.above base) step' (move total)) := by
  refine (lifts_start v).bind fun c => ?_
  intro s
  have taken (total : α) (item : Item) : Lifts base move (make item.create >>= step total)
      (make (item.above base).create >>= step' (move total)) := by
    have made : Lifts base (Value.above base) (make item.create) (make (item.above base).create) :=
      lifts_make fun s => item.create_above base s
    exact made.bind (each total)
  have folded : Lifts base move
      (c.fold s (fun total item => make item.create >>= step total) (c.remaining s) total)
      ((c.above base).fold (base.above s) (fun total item => make item.create >>= step' total)
        (c.remaining s) (move total)) :=
    lifts_fold taken s (c.remaining s) c total
  show (c.above base).fold (base.above s) _ ((c.above base).remaining (base.above s)) _ _ = _
  rw [Cursor.remaining_above]
  exact folded s

theorem lifts_anyElement {holds holds' : Store → Value → Bool}
    (same : ∀ s v, holds' (base.above s) (v.above base) = holds s v) (v : Value) :
    Lifts base id (anyElement v holds) (anyElement (v.above base) holds') := by
  refine (lifts_start v).bind fun c => lifts_read fun s => ?_
  rw [c.remaining_above base s]
  refine Cursor.any_above base s (fun item => ?_) (c.remaining s) c
  rw [Item.create_above]
  exact same _ _

end Action

/-! ### Builtin functions -/

namespace Builtin

open CallConsole.Action

variable {base : Store}

theorem create_lifts (number : Number) :
    Lifts base (Value.above base) number.create number.create := by
  cases number with
  | int n => exact lifts_int n
  | float x => exact lifts_float x

theorem orTooLarge_lifts (function : String) (result : Option Integer) :
    Lifts base (Value.above base) (orTooLarge function result) (orTooLarge function result) := by
  unfold orTooLarge
  split
  · exact lifts_int _
  · exact lifts_fail _ _

/-! #### Conversions and types -/

theorem strOf_lifts (v : Value) :
    Lifts base (Value.above base) (strOf v) (strOf (v.above base)) := by
  have text : Lifts base id (read (·.str v)) (read (·.str (v.above base))) :=
    lifts_read fun s => base.str_above s v
  exact text.bind lifts_str

theorem intOf_lifts (v : Value) :
    Lifts base (Value.above base) (intOf v) (intOf (v.above base)) := by
  cases v with
  | int id n => exact lifts_int n
  | bool id b => exact lifts_int _
  | float id x => exact (lifts_try _).bind lifts_int
  | str id text => exact (lifts_try _).bind lifts_int
  | _ => exact lifts_fail _ _

theorem floatOf_lifts (v : Value) :
    Lifts base (Value.above base) (floatOf v) (floatOf (v.above base)) := by
  cases v with
  | int | bool | float => exact lifts_float _
  | str id text => exact (lifts_try _).bind lifts_float
  | _ => exact lifts_fail _ _

theorem boolOf_lifts (v : Value) :
    Lifts base (Value.above base) (boolOf v) (boolOf (v.above base)) := by
  have truth : Lifts base id (read (·.truthy v)) (read (·.truthy (v.above base))) :=
    lifts_read fun s => base.truthy_above s v
  exact truth.bind lifts_bool

theorem chrOf_lifts (v : Value) :
    Lifts base (Value.above base) (chrOf v) (chrOf (v.above base)) := by
  refine (lifts_expectInteger "chr" v).bind fun code => ?_
  dsimp only [id]
  split
  · exact lifts_str _
  · exact lifts_fail _ _

theorem ordOf_lifts (v : Value) :
    Lifts base (Value.above base) (ordOf v) (ordOf (v.above base)) := by
  unfold ordOf
  rw [Value.text?_above, Value.type_above]
  split
  · exact lifts_int _
  · exact lifts_fail _ _
  · exact lifts_fail _ _

theorem typeOf_lifts (v : Value) :
    Lifts base (Value.above base) (typeOf v) (typeOf (v.above base)) := by
  unfold typeOf
  rw [Value.type_above]
  exact lifts_str _

theorem isInstanceOfAny_above (v : Value) (names : List Value) :
    isInstanceOfAny (v.above base) (names.map (Value.above base)) = isInstanceOfAny v names := by
  induction names with
  | nil => rfl
  | cons name rest ih =>
    rw [List.map_cons, isInstanceOfAny, isInstanceOfAny, Value.text?_above, Value.type_above]
    simp only [Value.isInstance_above, ih]

theorem isInstanceOf_lifts (v types : Value) : Lifts base (Value.above base) (isInstanceOf v types)
    (isInstanceOf (v.above base) (types.above base)) := by
  have answer (names : List Value) : Lifts base (Value.above base)
      (tryRead (fun _ => isInstanceOfAny v names) >>= Action.bool)
      (tryRead (fun _ => isInstanceOfAny (v.above base) (names.map (Value.above base))) >>=
        Action.bool) := by
    rw [isInstanceOfAny_above]
    exact (lifts_try _).bind lifts_bool
  have sequence : Lifts base (List.map (Value.above base))
      (read fun s => (s.sequence? types).getD [])
      (read fun s => (s.sequence? (types.above base)).getD []) := by
    refine lifts_read fun s => ?_
    rw [Store.sequence?_above]
    cases s.sequence? types <;> rfl
  cases types with
  | str id text => exact answer [.str id text]
  | list | tuple => exact sequence.bind answer
  | _ => exact (lifts_fail (List.map (Value.above base)) _).bind answer

/-! #### Collections -/

theorem lenOf_lifts (v : Value) :
    Lifts base (Value.above base) (lenOf v) (lenOf (v.above base)) := by
  have length : Lifts base id (read (·.length? v)) (read (·.length? (v.above base))) :=
    lifts_read fun s => base.length?_above s v
  cases v with
  | str | list | tuple | dict => exact length.bind fun length => lifts_int _
  | _ => exact lifts_fail _ _

theorem sortedOf_lifts (v : Value) (descending : Option Value) :
    Lifts base (Value.above base) (sortedOf v descending)
      (sortedOf (v.above base) (descending.map (Value.above base))) := by
  refine (lifts_expectIterable "sorted" v).bind fun _ => ?_
  have down : Lifts base id (read fun s => descending.any s.truthy)
      (read fun s => (descending.map (Value.above base)).any s.truthy) := by
    refine lifts_read fun s => ?_
    cases descending with
    | none => rfl
    | some flag => exact base.truthy_above s flag
  refine down.bind fun down => (lifts_elements v).bind fun items => ?_
  have sorted : Lifts base (List.map (Value.above base)) (tryRead (·.sort down items))
      (tryRead (·.sort down (items.map (Value.above base)))) :=
    lifts_tryRead fun s => Store.sort_above base s down items
  exact sorted.bind lifts_list

theorem reversedOf_lifts (v : Value) :
    Lifts base (Value.above base) (reversedOf v) (reversedOf (v.above base)) := by
  have captured : Lifts base (Value.above base)
      (elements v >>= fun items => Action.make (·.create (.reversed · items.reverse)))
      (elements (v.above base) >>= fun items =>
        Action.make (·.create (.reversed · items.reverse))) := by
    refine (lifts_elements v).bind fun items => lifts_create fun id => ?_
    rw [Value.above, Value.aboveAll_eq_map, List.map_reverse]
  cases v with
  | range id r => exact lifts_create fun _ => rfl
  | reversedRange id r => exact lifts_range r
  | list | tuple | str | reversed => exact captured
  | _ => exact lifts_fail _ _

theorem enumerateOf_lifts (v : Value) (start : Option Value) :
    Lifts base (Value.above base) (enumerateOf v start)
      (enumerateOf (v.above base) (start.map (Value.above base))) := by
  refine (lifts_expectIterable "enumerate" v).bind fun _ => ?_
  have made (first : Integer) : Lifts base (Value.above base)
      (Action.make (·.create (.enumerate · v first)))
      (Action.make (·.create (.enumerate · (v.above base) first))) :=
    lifts_create fun _ => rfl
  cases start with
  | none => exact made 0
  | some n => exact (lifts_expectInteger "enumerate" n).bind made

theorem forM_lifts (function : String) (sources : List Value) :
    Lifts base id (sources.forM (expectIterable function))
      ((sources.map (Value.above base)).forM (expectIterable function)) := by
  induction sources with
  | nil => exact lifts_pure id ()
  | cons v rest ih => exact (lifts_expectIterable function v).bind fun _ => ih

theorem zipOf_lifts (sources : List Value) : Lifts base (Value.above base) (zipOf sources)
    (zipOf (sources.map (Value.above base))) := by
  refine (forM_lifts "zip" sources).bind fun _ => lifts_create fun id => ?_
  rw [Value.above, Value.aboveAll_eq_map]

theorem anyOf_lifts (v : Value) :
    Lifts base (Value.above base) (anyOf v) (anyOf (v.above base)) := by
  refine (lifts_expectIterable "any" v).bind fun _ => ?_
  exact (lifts_anyElement (fun s v => base.truthy_above s v) v).bind lifts_bool

theorem allOf_lifts (v : Value) :
    Lifts base (Value.above base) (allOf v) (allOf (v.above base)) := by
  refine (lifts_expectIterable "all" v).bind fun _ => ?_
  have asked : Lifts base id (anyElement v fun s element => !s.truthy element)
      (anyElement (v.above base) fun s element => !s.truthy element) :=
    lifts_anyElement (fun s v => congrArg (!·) (base.truthy_above s v)) v
  exact asked.bind fun missing => lifts_bool _

theorem listOf_lifts (v : Value) :
    Lifts base (Value.above base) (listOf v) (listOf (v.above base)) :=
  (lifts_expectIterable "list" v).bind fun _ => (lifts_elements v).bind lifts_list

theorem addPair_lifts (progress : Nat × Dict) (element : Value) :
    Lifts base (fun progress => (progress.1, progress.2.above base)) (addPair progress element)
      (addPair (progress.1, progress.2.above base) (element.above base)) := by
  have asked : Lifts base (Option.map (List.map (Value.above base))) (read (·.sequence? element))
      (read (·.sequence? (element.above base))) :=
    lifts_read fun s => base.sequence?_above s element
  refine asked.bind fun found => ?_
  match found with
  | some [key, value] =>
    exact (lifts_insertInto progress.2 key value).bind fun changed =>
      lifts_pure (fun progress => (progress.1, progress.2.above base)) (progress.1 + 1, changed)
  | none | some [] | some [_] | some (_ :: _ :: _ :: _) => exact lifts_fail _ _

theorem dictOf_lifts (v : Value) :
    Lifts base (Value.above base) (dictOf v) (dictOf (v.above base)) := by
  have folded : Lifts base (Value.above base)
      (do expectIterable "dict" v
          let progress ← foldElements v addPair (0, Dict.empty)
          Action.dict progress.2)
      (do expectIterable "dict" (v.above base)
          let progress ← foldElements (v.above base) addPair (0, Dict.empty)
          Action.dict progress.2) := by
    refine (lifts_expectIterable "dict" v).bind fun _ => ?_
    exact (lifts_foldElements addPair_lifts v (0, Dict.empty)).bind fun done => lifts_dict done.2
  cases v with
  | dict place =>
    have contents : Lifts base (Dict.above base) (read (·.contents place))
        (read (·.contents (base.dicts.size + place))) :=
      lifts_read fun s => base.contents_above s place
    exact contents.bind lifts_dict
  | _ => exact folded

theorem rangeOf_lifts (start stop step : Integer) :
    Lifts base (Value.above base) (rangeOf start stop step) (rangeOf start stop step) := by
  unfold rangeOf
  split
  · exact lifts_range _
  · exact lifts_fail _ _

theorem mapM_lifts (function : String) (vs : List Value) :
    Lifts base id (vs.mapM (expectInteger function))
      ((vs.map (Value.above base)).mapM (expectInteger function)) := by
  induction vs with
  | nil => exact lifts_pure id []
  | cons v rest ih =>
    rw [List.map_cons, List.mapM_cons, List.mapM_cons]
    exact (lifts_expectInteger function v).bind fun n => ih.bind fun ns => lifts_pure id (n :: ns)

theorem rangeOfBounds_lifts (bounds : List Value) :
    Lifts base (Value.above base) (rangeOfBounds bounds)
      (rangeOfBounds (bounds.map (Value.above base))) := by
  refine (mapM_lifts "range" bounds).bind fun ns => ?_
  dsimp only [id]
  split
  · exact rangeOf_lifts _ _ _
  · exact rangeOf_lifts _ _ _
  · exact rangeOf_lifts _ _ _
  · exact lifts_fail _ _

/-! #### Numbers -/

theorem absOf_lifts (v : Value) :
    Lifts base (Value.above base) (absOf v) (absOf (v.above base)) := by
  refine (lifts_expectNumber "abs" v).bind fun number => ?_
  cases number with
  | int n => exact orTooLarge_lifts _ _
  | float x => exact lifts_float _

theorem extremum_lifts (wanted : Ordering) (best : Value) (rest : List Value) :
    Lifts base (Value.above base) (extremum wanted best rest)
      (extremum wanted (best.above base) (rest.map (Value.above base))) := by
  induction rest generalizing best with
  | nil => exact lifts_pure (Value.above base) best
  | cons v rest ih =>
    have order : Lifts base id (tryRead (·.compare v best))
        (tryRead (·.compare (v.above base) (best.above base))) := by
      refine lifts_tryRead fun s => ?_
      rw [Store.compare_above]
      cases s.compare v best <;> rfl
    refine order.bind fun order => ?_
    have better := ih (if order = wanted then v else best)
    rwa [apply_ite (Value.above base)] at better

theorem extremumAmong_lifts (function : String) (wanted : Ordering) (candidates : List Value) :
    Lifts base (Value.above base) (extremumAmong function wanted candidates)
      (extremumAmong function wanted (candidates.map (Value.above base))) := by
  cases candidates with
  | nil => exact lifts_fail _ _
  | cons first rest => exact extremum_lifts wanted first rest

theorem extremumOf_lifts (function : String) (wanted : Ordering) (arguments : List Value) :
    Lifts base (Value.above base) (extremumOf function wanted arguments)
      (extremumOf function wanted (arguments.map (Value.above base))) := by
  match arguments with
  | [v] => exact (lifts_elements v).bind (extremumAmong_lifts function wanted)
  | [] => exact extremumAmong_lifts function wanted []
  | v :: w :: rest => exact extremumAmong_lifts function wanted (v :: w :: rest)

theorem addTerm_lifts (total term : Value) : Lifts base (Value.above base) (addTerm total term)
    (addTerm (total.above base) (term.above base)) := by
  unfold addTerm
  rw [Number.of?_above, Number.of?_above, Value.type_above, Value.type_above]
  split
  · exact (lifts_try _).bind create_lifts
  · exact lifts_fail _ _

theorem sumOf_lifts (v : Value) (start : Option Value) : Lifts base (Value.above base)
    (sumOf v start) (sumOf (v.above base) (start.map (Value.above base))) := by
  have folded (total : Value) : Lifts base (Value.above base) (foldElements v addTerm total)
      (foldElements (v.above base) addTerm (total.above base)) :=
    lifts_foldElements addTerm_lifts v total
  unfold sumOf
  rw [Value.iterable_above, Value.type_above]
  dsimp only
  by_cases iterable : v.iterable = true
  · rw [if_pos iterable, if_pos iterable]
    cases start with
    | none => exact (lifts_int 0).bind folded
    | some first =>
      exact (lifts_expectNumber "sum" first).bind fun _ => (lifts_pure _ first).bind folded
  · rw [if_neg iterable, if_neg iterable]
    exact fun _ => rfl

theorem doublePower_lifts (x y : Double) :
    Lifts base (Value.above base) (doublePower x y) (doublePower x y) := by
  unfold doublePower
  split
  · exact lifts_fail _ _
  · split
    · exact lifts_float _
    · exact lifts_fail _ _

theorem powOf_lifts (v w : Value) : Lifts base (Value.above base) (powOf v w)
    (powOf (v.above base) (w.above base)) := by
  refine (lifts_expectNumber "pow" v).bind fun b => (lifts_expectNumber "pow" w).bind fun e => ?_
  dsimp only [id]
  split
  · split
    · exact orTooLarge_lifts _ _
    · exact doublePower_lifts _ _
  · exact doublePower_lifts _ _

theorem sqrtOf_lifts (v : Value) :
    Lifts base (Value.above base) (sqrtOf v) (sqrtOf (v.above base)) := by
  refine (lifts_expectNumber "sqrt" v).bind fun number => ?_
  dsimp only [id]
  split
  · exact lifts_fail _ _
  · exact lifts_float _

theorem rounded_lifts (number : Number) (digits : Option Integer) :
    Lifts base (Value.above base) (rounded number digits) (rounded number digits) := by
  unfold rounded
  split
  · exact lifts_int _
  · exact orTooLarge_lifts _ _
  · exact (lifts_try _).bind lifts_int
  · exact lifts_float _

theorem roundOf_lifts (v : Value) (places : Option Value) : Lifts base (Value.above base)
    (roundOf v places) (roundOf (v.above base) (places.map (Value.above base))) := by
  refine (lifts_expectNumber "round" v).bind fun number => ?_
  have asked (p : Value) : Lifts base (Value.above base)
      (some <$> expectInteger "round" p >>= rounded number)
      (some <$> expectInteger "round" (p.above base) >>= rounded number) := by
    have given : Lifts base id (some <$> expectInteger "round" p)
        (some <$> expectInteger "round" (p.above base)) :=
      (lifts_expectInteger "round" p).map some some fun _ => rfl
    exact given.bind (rounded_lifts number)
  match places with
  | none => exact rounded_lifts number none
  | some p =>
    cases p with
    | null id => exact rounded_lifts number none
    | _ => exact asked _

/-- A wrong number of arguments is wrong above too. -/
theorem wrongCount_lifts (function : Builtin) (arguments : List Value) :
    Lifts base (Value.above base)
      (fail (.wrongArgumentCount function.name function.arity arguments.length))
      (fail (.wrongArgumentCount function.name function.arity
        (arguments.map (Value.above base)).length)) := by
  rw [List.length_map]
  exact lifts_fail _ _

theorem check_lifts (function : Builtin) (arguments : List Value) :
    Lifts base id (tryRead fun _ => function.arity.check function.name arguments.length)
      (tryRead fun _ => function.arity.check function.name
        (arguments.map (Value.above base)).length) := by
  rw [List.length_map]
  exact lifts_try _

/-- **Every builtin function does above what it does below.** -/
theorem body_lifts : ∀ (function : Builtin) (arguments : List Value),
    Lifts base (Value.above base) (function.body arguments)
      (function.body (arguments.map (Value.above base)))
  | .str, [] => lifts_str []
  | .str, [v] => strOf_lifts v
  | .int, [v] => intOf_lifts v
  | .float, [v] => floatOf_lifts v
  | .bool, [] => lifts_bool false
  | .bool, [v] => boolOf_lifts v
  | .chr, [v] => chrOf_lifts v
  | .ord, [v] => ordOf_lifts v
  | .len, [v] => lenOf_lifts v
  | .sorted, [v] => sortedOf_lifts v none
  | .sorted, [v, descending] => sortedOf_lifts v (some descending)
  | .reversed, [v] => reversedOf_lifts v
  | .enumerate, [v] => enumerateOf_lifts v none
  | .enumerate, [v, start] => enumerateOf_lifts v (some start)
  | .zip, sources => zipOf_lifts sources
  | .any, [v] => anyOf_lifts v
  | .all, [v] => allOf_lifts v
  | .list, [] => lifts_list []
  | .list, [v] => listOf_lifts v
  | .dict, [] => lifts_dict Dict.empty
  | .dict, [v] => dictOf_lifts v
  | .range, bounds => rangeOfBounds_lifts bounds
  | .abs, [v] => absOf_lifts v
  | .min, arguments => extremumOf_lifts "min" .lt arguments
  | .max, arguments => extremumOf_lifts "max" .gt arguments
  | .sum, [v] => sumOf_lifts v none
  | .sum, [v, start] => sumOf_lifts v (some start)
  | .pow, [v, w] => powOf_lifts v w
  | .sqrt, [v] => sqrtOf_lifts v
  | .round, [v] => roundOf_lifts v none
  | .round, [v, places] => roundOf_lifts v (some places)
  | .type, [v] => typeOf_lifts v
  | .isinstance, [v, types] => isInstanceOf_lifts v types
  | .print, _ => wrongCount_lifts _ _
  | .str, _ :: _ :: _ | .bool, _ :: _ :: _ | .list, _ :: _ :: _ | .dict, _ :: _ :: _
  | .int, [] | .int, _ :: _ :: _ | .float, [] | .float, _ :: _ :: _ | .chr, []
  | .chr, _ :: _ :: _ | .ord, [] | .ord, _ :: _ :: _ | .len, [] | .len, _ :: _ :: _
  | .reversed, [] | .reversed, _ :: _ :: _ | .any, [] | .any, _ :: _ :: _ | .all, []
  | .all, _ :: _ :: _ | .abs, [] | .abs, _ :: _ :: _ | .sqrt, [] | .sqrt, _ :: _ :: _
  | .type, [] | .type, _ :: _ :: _ | .sorted, [] | .sorted, _ :: _ :: _ :: _ | .enumerate, []
  | .enumerate, _ :: _ :: _ :: _ | .sum, [] | .sum, _ :: _ :: _ :: _ | .round, []
  | .round, _ :: _ :: _ :: _ | .pow, [] | .pow, [_] | .pow, _ :: _ :: _ :: _ | .isinstance, []
  | .isinstance, [_] | .isinstance, _ :: _ :: _ :: _ => wrongCount_lifts _ _

end Builtin

end CallConsole
