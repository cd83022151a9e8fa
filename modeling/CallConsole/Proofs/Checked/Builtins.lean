/-
**The builtin functions in machine operations.**

A function of a machine gets its arguments as a sequence and takes them from it by index. Its
arithmetic is that of words, its loops count, and it writes the texts that its failures show.

* one lemma for each function: with arguments of a length that a machine can hold, it does not go
  wrong and does what the function of the library does;
* `body_mirrors`: so does every function with a number of arguments that it accepts.
-/

import CallConsole.Builtin
import CallConsole.Proofs.Checked.Actions
import CallConsole.Proofs.Checked.Comparisons
import CallConsole.Proofs.Checked.FloatRounding
import CallConsole.Proofs.Checked.Integers
import CallConsole.Proofs.Checked.Texts

namespace CallConsole

namespace Checked

open CheckedAction

variable {s : Store} {v : Value}

/-! ### Conversions -/

/-- The whole number found for a double. The failure that it is too large shows the double. -/
def wholeNumber (x : Double) (whole : Int) : Checked (Except Cause Integer) :=
  if x.isNan then .ok (.error .integerOfNan)
  else if x.isInfinite then .ok (.error .integerOfInfinity)
  else match Integer.ofInt? whole with
    | some n => .ok (.ok n)
    | none => do
      let _shown ← floatText x
      .ok (.error (.integerOfLarge x))

/-- `str(v)` -/
def strOf (v : Value) : CheckedAction Value := do
  let text ← read (str · v)
  plain (Action.str text)

/-- `int(v)` -/
def intOf : Value → CheckedAction Value
  | .float _ x => do
    let n ← tryRead fun _ => wholeNumber x x.truncate
    plain (Action.int n)
  | v => plain (Builtin.intOf v)

/-- `bool(v)` -/
def boolOf (v : Value) : CheckedAction Value := do
  let b ← read (truthy · v)
  plain (Action.bool b)

theorem wholeNumber_truncate (x : Double) :
    wholeNumber x x.truncate = .ok (Integer.ofTruncated x) := by
  unfold wholeNumber Integer.ofTruncated
  rw [floatText_eq, ok_bind]
  cases Integer.ofInt? x.truncate <;> split_ifs <;> rfl

theorem wholeNumber_nearestInt (x : Double) :
    wholeNumber x x.nearestInt = .ok (Builtin.roundedInteger x) := by
  unfold wholeNumber Builtin.roundedInteger
  rw [floatText_eq, ok_bind]
  cases Integer.ofInt? x.nearestInt <;> split_ifs <;> rfl

theorem strOf_mirrors (v : Value) : Mirrors (strOf v) (Builtin.strOf v) s :=
  .read_bind (str_eq s v) (.plain _ s)

theorem intOf_mirrors (v : Value) : Mirrors (intOf v) (Builtin.intOf v) s := by
  cases v with
  | float id x => exact .tryRead_bind (wholeNumber_truncate x) fun n _ => .plain _ s
  | _ => exact .plain _ s

theorem boolOf_mirrors (v : Value) : Mirrors (boolOf v) (Builtin.boolOf v) s :=
  .read_bind (truthy_eq s v) (.plain _ s)

/-! ### Types -/

/-- The names that an argument of `isinstance` gives. -/
def typeNames (types : Value) : CheckedAction (List Value) :=
  match types with
  | .str .. => pure [types]
  | .list _ | .tuple .. => read fun s => expected (s.sequence? types)
  | _ => plain (Action.fail (.typeNamesNotText types.type))

/-- `isinstance(v, types)` -/
def isInstanceOf (v types : Value) : CheckedAction Value := do
  let names ← typeNames types
  let fits ← plain (Action.tryRead fun _ => Builtin.isInstanceOfAny v names)
  plain (Action.bool fits)

theorem isInstanceOf_mirrors (v types : Value) :
    Mirrors (isInstanceOf v types) (Builtin.isInstanceOf v types) s := by
  have answer (names : List Value) : Mirrors
      (plain (Action.tryRead fun _ => Builtin.isInstanceOfAny v names) >>= fun fits =>
        plain (Action.bool fits))
      (Action.tryRead (fun _ => Builtin.isInstanceOfAny v names) >>= fun fits =>
        Action.bool fits) s :=
    (Mirrors.plain _ s).bind fun fits s' _ => .plain _ s'
  cases types with
  | str id text => exact answer [.str id text]
  | list place => exact .read_bind rfl (answer _)
  | tuple id items => exact .read_bind rfl (answer _)
  | _ => rfl

/-! ### Collections -/

/-- The flag of `sorted`, if it is given. -/
def flag (s : Store) (descending : Option Value) : Checked Bool :=
  match descending with
  | some v => truthy s v
  | none => .ok false

/-- `sorted(v)`, descending if the flag counts as true -/
def sortedOf (v : Value) (descending : Option Value) : CheckedAction Value := do
  plain (Action.expectIterable "sorted" v)
  let down ← read (flag · descending)
  let items ← elements v
  let sorted ← tryRead (sort · down items)
  plain (Action.list sorted)

/-- `any(v)` -/
def anyOf (v : Value) : CheckedAction Value := do
  plain (Action.expectIterable "any" v)
  let found ← anyElement v truthy
  plain (Action.bool found)

/-- `all(v)` -/
def allOf (v : Value) : CheckedAction Value := do
  plain (Action.expectIterable "all" v)
  let missing ← anyElement v fun s element => (!·) <$> truthy s element
  plain (Action.bool !missing)

/-- `list(v)` -/
def listOf (v : Value) : CheckedAction Value := do
  plain (Action.expectIterable "list" v)
  let items ← elements v
  plain (Action.list items)

/-- The two items of an element, if there are two. -/
def pair (found : Option (List Value)) : Checked (Option (Value × Value)) :=
  match found with
  | none => .ok none
  | some items =>
    if items.length = 2 then do
      let key ← itemAt items 0
      let v ← itemAt items 1
      .ok (some (key, v))
    else .ok none

/-- One more pair for a dict; `index` counts the pairs. -/
def addPair (progress : Nat × Dict) (element : Value) : CheckedAction (Nat × Dict) := do
  let (index, d) := progress
  let following ← read fun _ => countUp index
  let found ← plain (Action.read (·.sequence? element))
  match ← read fun _ => pair found with
  | some (key, v) => do
    let changed ← plain (Action.insertInto d key v)
    pure (following, changed)
  | none => plain (Action.fail (.elementNotPair index))

/-- `dict(v)`: a copy of a dict, or the pairs of anything else -/
def dictOf (v : Value) : CheckedAction Value :=
  match v with
  | .dict _ => plain (Builtin.dictOf v)
  | _ => do
    plain (Action.expectIterable "dict" v)
    let (_, d) ← foldElements v addPair (0, Dict.empty)
    plain (Action.dict d)

/-- `range(stop)`, `range(start, stop)` and `range(start, stop, step)` -/
def rangeOfBounds (bounds : List Value) : CheckedAction Value := do
  match ← plain (bounds.mapM (Action.expectInteger "range")) with
  | [stop] => plain (Builtin.rangeOf 0 stop 1)
  | [start, stop] => plain (Builtin.rangeOf start stop 1)
  | [start, stop, step] => plain (Builtin.rangeOf start stop step)
  | _ => read fun _ => .error .unreachable

theorem flag_eq (s : Store) (descending : Option Value) :
    flag s descending = .ok (descending.any s.truthy) := by
  cases descending with
  | none => rfl
  | some v => exact truthy_eq s v

theorem sortedOf_mirrors (short : s.Addressable v) (descending : Option Value) :
    Mirrors (sortedOf v descending) (Builtin.sortedOf v descending) s :=
  .expectIterable_bind <| .read_bind (flag_eq s descending) <|
    elements_bind short fun _ s' word =>
      .tryRead_bind (sort_eq s' _ word) fun _ _ => .plain _ s'

theorem anyOf_mirrors (short : s.Addressable v) : Mirrors (anyOf v) (Builtin.anyOf v) s :=
  .expectIterable_bind <| (anyElement_mirrors short truthy_eq).bind fun _ s' _ => .plain _ s'

theorem allOf_mirrors (short : s.Addressable v) : Mirrors (allOf v) (Builtin.allOf v) s := by
  have tested (s : Store) (element : Value) :
      ((!·) <$> truthy s element) = .ok !s.truthy element := by
    rw [truthy_eq]
    rfl
  exact .expectIterable_bind <| (anyElement_mirrors short tested).bind fun _ s' _ => .plain _ s'

theorem listOf_mirrors (short : s.Addressable v) : Mirrors (listOf v) (Builtin.listOf v) s :=
  .expectIterable_bind <| elements_bind short fun _ s' _ => .plain _ s'

/-- **A pair of a dict is counted without overflow** if the count after it is a word. -/
theorem addPair_mirrors {progress : Nat × Dict} (word : progress.1 + 1 < 2 ^ 64)
    (element : Value) :
    Mirrors (addPair progress element) (Builtin.addPair progress element) s := by
  obtain ⟨index, d⟩ := progress
  refine .compute (countUp_of_lt word) <| (Mirrors.plain _ s).bind fun found s' _ => ?_
  -- no sequence, or one of no, one, two or more items; only two are taken out by index
  rcases found with _ | _ | ⟨key, _ | ⟨v, _ | ⟨third, rest⟩⟩⟩
  case some.cons.cons.nil =>
    exact .compute rfl <| (Mirrors.plain _ s').bind fun _ s'' _ => rfl
  case some.cons.cons.cons =>
    have longer : pair (some (key :: v :: third :: rest)) = .ok none := by
      rw [pair, if_neg]
      simp only [List.length_cons]
      omega
    exact .compute longer (.plain _ s')
  all_goals exact .compute rfl (.plain _ s')

/-- What `addPair` counts goes up by one. -/
theorem addPair_count {progress progress' : Nat × Dict} {element : Value} {s' : Store}
    (done : Builtin.addPair progress element s = .ok progress' s') :
    progress'.1 = progress.1 + 1 := by
  obtain ⟨found, s₁, _, ran⟩ := EStateM.exists_of_bind_ok done
  split at ran
  case h_1 =>
    obtain ⟨changed, s₂, _, ran⟩ := EStateM.exists_of_bind_ok ran
    cases ran
    rfl
  case h_2 => cases ran

theorem dictOf_mirrors (short : s.Addressable v) : Mirrors (dictOf v) (Builtin.dictOf v) s := by
  have pairs : Mirrors
      (plain (Action.expectIterable "dict" v) >>= fun _ =>
        foldElements v addPair (0, Dict.empty) >>= fun (_, d) => plain (Action.dict d))
      (Action.expectIterable "dict" v >>= fun _ =>
        Action.foldElements v Builtin.addPair (0, Dict.empty) >>= fun (_, d) => Action.dict d)
      s := by
    refine .expectIterable_bind <| Mirrors.bind ?_ fun _ s' _ => .plain _ s'
    -- the pairs counted and the elements left are together no more than a word
    refine foldElements_mirrors (fun count progress => progress.1 + count < 2 ^ 64) short
      (fun count progress element s' held => addPair_mirrors (by omega) element)
      (fun count progress element s' progress' s'' held done => ?_) fun count word => ?_
    · have counted := addPair_count done
      omega
    · simpa using word
  cases v with
  | dict place => exact .plain _ s
  | _ => exact pairs

/-- **The last branch of `range` is not reached** with a number of bounds that it accepts. -/
theorem rangeOfBounds_mirrors {bounds : List Value} (least : 1 ≤ bounds.length)
    (most : bounds.length ≤ 3) :
    Mirrors (rangeOfBounds bounds) (Builtin.rangeOfBounds bounds) s := by
  refine (Mirrors.plain _ s).bind fun ns s' done => ?_
  have length := Action.length_of_mapM done
  -- there are as many integers as bounds, so neither none nor four
  rcases ns with _ | ⟨_, _ | ⟨_, _ | ⟨_, _ | ⟨_, rest⟩⟩⟩⟩
  case nil =>
    rw [List.length_nil] at length
    omega
  case cons.cons.cons.cons =>
    simp only [List.length_cons] at length
    omega
  all_goals exact .plain _ s'

/-! ### Numbers -/

/-- The first of the values that no later one beats. -/
def extremum (wanted : Ordering) (best : Value) : List Value → CheckedAction Value
  | [] => pure best
  | v :: rest => do
    let order ← tryRead (compare · v best)
    extremum wanted (if order = wanted then v else best) rest

/-- The first of the candidates that no later one beats, if there is a candidate. -/
def extremumAmong (function : String) (wanted : Ordering) : List Value → CheckedAction Value
  | [] => plain (Action.fail (.emptySequence function))
  | first :: rest => extremum wanted first rest

/-- `min(…)` and `max(…)` -/
def extremumOf (function : String) (wanted : Ordering) : List Value → CheckedAction Value
  | [v] => elements v >>= extremumAmong function wanted
  | arguments => extremumAmong function wanted arguments

/-- The elements of a value added to a number. -/
def addTerms (v total : Value) : CheckedAction Value :=
  foldElements v (fun total term => plain (Builtin.addTerm total term)) total

/-- `sum(v)`, from zero or the given start on -/
def sumOf (v : Value) (start : Option Value) : CheckedAction Value :=
  if v.iterable then
    match start with
    | some first => plain (Action.expectNumber "sum" first) >>= fun _ => addTerms v first
    | none => plain (Action.int 0) >>= addTerms v
  else plain (Action.fail (.notIterable v.type))

/-- `pow(base, exponent)` -/
def powOf (base exponent : Value) : CheckedAction Value := do
  let b ← plain (Action.expectNumber "pow" base)
  let e ← plain (Action.expectNumber "pow" exponent)
  match b, e with
  | .int m, .int n =>
    if 0 ≤ n.toInt then do
      let power ← read fun _ => power? m n
      plain (Action.orTooLarge "pow" power)
    else plain (Builtin.doublePower b.toDouble e.toDouble)
  | _, _ => plain (Builtin.doublePower b.toDouble e.toDouble)

/-- A number rounded to that many digits. -/
def rounded (number : Number) (digits : Option Integer) : CheckedAction Value :=
  match number, digits with
  | .int n, none => plain (Action.int n)
  | .int n, some d => do
    let multiple ← read fun _ => roundTo? n d
    plain (Action.orTooLarge "round" multiple)
  | .float x, none => do
    let n ← tryRead fun _ => wholeNumber x x.nearestInt
    plain (Action.int n)
  | .float x, some d => do
    let nearest ← read fun _ => floatRounded x d
    plain (Action.float nearest)

/-- `round(v)` and `round(v, places)` -/
def roundOf (v : Value) (places : Option Value) : CheckedAction Value := do
  let number ← plain (Action.expectNumber "round" v)
  match places with
  | none | some (.null _) => rounded number none
  | some p => do
    let digits ← plain (Action.expectInteger "round" p)
    rounded number (some digits)

theorem extremum_mirrors (wanted : Ordering) (best : Value) (rest : List Value) :
    Mirrors (extremum wanted best rest) (Action.extremum wanted best rest) s := by
  induction rest generalizing best with
  | nil => rfl
  | cons v rest ih => exact .tryRead_bind (compare_eq s v best) fun order _ => ih _

theorem extremumAmong_mirrors (function : String) (wanted : Ordering) (candidates : List Value) :
    Mirrors (extremumAmong function wanted candidates)
      (Builtin.extremumAmong function wanted candidates) s := by
  cases candidates with
  | nil => exact .plain _ s
  | cons first rest => exact extremum_mirrors wanted first rest

theorem extremumOf_mirrors (function : String) (wanted : Ordering) {arguments : List Value}
    (short : ∀ v ∈ arguments, s.Addressable v) :
    Mirrors (extremumOf function wanted arguments)
      (Builtin.extremumOf function wanted arguments) s := by
  match arguments, short with
  | [v], short =>
    exact elements_bind (short v List.mem_cons_self) fun items s' _ =>
      extremumAmong_mirrors function wanted items
  | [], _ => exact extremumAmong_mirrors function wanted []
  | first :: second :: rest, _ =>
    exact extremumAmong_mirrors function wanted (first :: second :: rest)

theorem addTerms_mirrors (short : s.Addressable v) (total : Value) :
    Mirrors (addTerms v total) (Action.foldElements v Builtin.addTerm total) s :=
  foldElements_mirrors (fun _ _ => True) short (fun _ _ _ s' _ => .plain _ s')
    (fun _ _ _ _ _ _ _ _ => trivial) fun _ _ => trivial

theorem sumOf_mirrors (short : s.Addressable v) (start : Option Value) :
    Mirrors (sumOf v start) (Builtin.sumOf v start) s := by
  by_cases iterable : v.iterable = true
  · simp only [sumOf, Builtin.sumOf, iterable, if_true]
    cases start with
    | none =>
      refine (Mirrors.plain (Action.int 0) s).bind fun total s' done => ?_
      cases done
      exact addTerms_mirrors ((Store.addressable_create s (.int · 0) v).mpr short) _
    | some first =>
      refine (Mirrors.plain (Action.expectNumber "sum" first) s).bind fun number s' done => ?_
      rw [Action.expectNumber] at done
      cases looked : Number.of? first with
      | none =>
        rw [looked] at done
        cases done
      | some found =>
        rw [looked] at done
        cases done
        exact addTerms_mirrors short first
  · simp only [sumOf, Builtin.sumOf, iterable, Bool.false_eq_true, if_false]
    rfl

theorem powOf_mirrors (base exponent : Value) :
    Mirrors (powOf base exponent) (Builtin.powOf base exponent) s := by
  refine (Mirrors.plain _ s).bind fun b s₁ _ => (Mirrors.plain _ s₁).bind fun e s₂ _ => ?_
  match b, e with
  | .int m, .int n =>
    by_cases natural : 0 ≤ n.toInt
    · simp only [if_pos natural]
      exact .compute (power?_eq m natural) (.plain _ s₂)
    · simp only [if_neg natural]
      exact .plain _ s₂
  | .float _, _ | .int _, .float _ => exact .plain _ s₂

theorem rounded_mirrors (number : Number) (digits : Option Integer) :
    Mirrors (rounded number digits) (Builtin.rounded number digits) s := by
  match number, digits with
  | .int n, none => exact .plain _ s
  | .int n, some d => exact .compute (roundTo?_eq n d) (.plain _ s)
  | .float x, none => exact .tryRead_bind (wholeNumber_nearestInt x) fun n _ => .plain _ s
  | .float x, some d => exact .compute (floatRounded_eq x d) (.plain _ s)

theorem roundOf_mirrors (v : Value) (places : Option Value) :
    Mirrors (roundOf v places) (Builtin.roundOf v places) s := by
  refine (Mirrors.plain _ s).bind fun number s₁ _ => ?_
  cases places with
  | none => exact rounded_mirrors number none
  | some p =>
    cases p with
    | null id => exact rounded_mirrors number none
    | _ =>
      exact (Mirrors.plain _ s₁).bind fun digits s₂ _ => rounded_mirrors number (some digits)

/-! ### All functions -/

/-- What a function does that takes its first argument. -/
def ofFirst (callback : Value → CheckedAction Value) (arguments : List Value) :
    CheckedAction Value := do
  let v ← read fun _ => itemAt arguments 0
  callback v

/-- What a function does that takes its first two arguments. -/
def ofFirstTwo (callback : Value → Value → CheckedAction Value) (arguments : List Value) :
    CheckedAction Value := do
  let v ← read fun _ => itemAt arguments 0
  let w ← read fun _ => itemAt arguments 1
  callback v w

/-- What a function does that takes its first argument if there is one. -/
def ofOptional (nothing : CheckedAction Value) (callback : Value → CheckedAction Value)
    (arguments : List Value) : CheckedAction Value :=
  match arguments[0]? with
  | some v => callback v
  | none => nothing

/-- What a function other than `print` does with its arguments. Nothing is asked here about their
number. -/
def body (function : Builtin) (arguments : List Value) : CheckedAction Value :=
  match function with
  | .print => read fun _ => .error .unreachable
  | .str => ofOptional (plain (Action.str [])) strOf arguments
  | .int => ofFirst intOf arguments
  | .float => ofFirst (fun v => plain (Builtin.floatOf v)) arguments
  | .bool => ofOptional (plain (Action.bool false)) boolOf arguments
  | .chr => ofFirst (fun v => plain (Builtin.chrOf v)) arguments
  | .ord => ofFirst (fun v => plain (Builtin.ordOf v)) arguments
  | .len => ofFirst (fun v => plain (Builtin.lenOf v)) arguments
  | .sorted => ofFirst (sortedOf · arguments[1]?) arguments
  | .reversed => ofFirst (fun v => plain (Builtin.reversedOf v)) arguments
  | .enumerate => ofFirst (fun v => plain (Builtin.enumerateOf v arguments[1]?)) arguments
  | .zip => plain (Builtin.zipOf arguments)
  | .any => ofFirst anyOf arguments
  | .all => ofFirst allOf arguments
  | .list => ofOptional (plain (Action.list [])) listOf arguments
  | .dict => ofOptional (plain (Action.dict Dict.empty)) dictOf arguments
  | .range => rangeOfBounds arguments
  | .abs => ofFirst (fun v => plain (Builtin.absOf v)) arguments
  | .min => extremumOf "min" .lt arguments
  | .max => extremumOf "max" .gt arguments
  | .sum => ofFirst (sumOf · arguments[1]?) arguments
  | .pow => ofFirstTwo powOf arguments
  | .sqrt => ofFirst (fun v => plain (Builtin.sqrtOf v)) arguments
  | .round => ofFirst (roundOf · arguments[1]?) arguments
  | .type => ofFirst (fun v => plain (Builtin.typeOf v)) arguments
  | .isinstance => ofFirstTwo isInstanceOf arguments

/-- One argument at most. -/
theorem nil_or_singleton {arguments : List Value}
    (accepted : (Arity.between 0 1).Accepts arguments.length) :
    arguments = [] ∨ ∃ v, arguments = [v] := by
  rcases arguments with _ | ⟨v, _ | ⟨w, rest⟩⟩
  case nil => exact .inl rfl
  case cons.nil => exact .inr ⟨v, rfl⟩
  case cons.cons =>
    have most := accepted.2
    simp only [List.length_cons] at most
    omega

/-- One argument or two. -/
theorem singleton_or_pair {arguments : List Value}
    (accepted : (Arity.between 1 2).Accepts arguments.length) :
    (∃ v, arguments = [v]) ∨ ∃ v w, arguments = [v, w] := by
  rcases arguments with _ | ⟨v, _ | ⟨w, _ | ⟨third, rest⟩⟩⟩
  case nil => exact absurd accepted.1 (by decide)
  case cons.nil => exact .inl ⟨v, rfl⟩
  case cons.cons.nil => exact .inr ⟨v, w, rfl⟩
  case cons.cons.cons =>
    have most := accepted.2
    simp only [List.length_cons] at most
    omega

/-- **No function goes wrong with a number of arguments that it accepts.** In particular every
argument that it takes is there. -/
theorem body_mirrors {function : Builtin} (silent : function ≠ .print) {arguments : List Value}
    (accepted : function.arity.Accepts arguments.length)
    (short : ∀ v ∈ arguments, s.Addressable v) :
    Mirrors (body function arguments) (function.body arguments) s := by
  have first {v : Value} {rest : List Value} (short : ∀ w ∈ v :: rest, s.Addressable w) :
      s.Addressable v := short v List.mem_cons_self
  cases function with
  | print => exact absurd rfl silent
  | float | chr | ord | len | reversed | abs | sqrt | type =>
    obtain ⟨v, rfl⟩ := List.length_eq_one_iff.mp accepted
    exact .compute rfl (.plain _ s)
  | int =>
    obtain ⟨v, rfl⟩ := List.length_eq_one_iff.mp accepted
    exact .compute rfl (intOf_mirrors v)
  | any =>
    obtain ⟨v, rfl⟩ := List.length_eq_one_iff.mp accepted
    exact .compute rfl (anyOf_mirrors (first short))
  | all =>
    obtain ⟨v, rfl⟩ := List.length_eq_one_iff.mp accepted
    exact .compute rfl (allOf_mirrors (first short))
  | str =>
    rcases nil_or_singleton accepted with rfl | ⟨v, rfl⟩
    · exact .plain _ s
    · exact strOf_mirrors v
  | bool =>
    rcases nil_or_singleton accepted with rfl | ⟨v, rfl⟩
    · exact .plain _ s
    · exact boolOf_mirrors v
  | list =>
    rcases nil_or_singleton accepted with rfl | ⟨v, rfl⟩
    · exact .plain _ s
    · exact listOf_mirrors (first short)
  | dict =>
    rcases nil_or_singleton accepted with rfl | ⟨v, rfl⟩
    · exact .plain _ s
    · exact dictOf_mirrors (first short)
  | sorted =>
    rcases singleton_or_pair accepted with ⟨v, rfl⟩ | ⟨v, w, rfl⟩
    · exact .compute rfl (sortedOf_mirrors (first short) none)
    · exact .compute rfl (sortedOf_mirrors (first short) (some w))
  | enumerate =>
    rcases singleton_or_pair accepted with ⟨v, rfl⟩ | ⟨v, w, rfl⟩
    · exact .compute rfl (.plain _ s)
    · exact .compute rfl (.plain _ s)
  | sum =>
    rcases singleton_or_pair accepted with ⟨v, rfl⟩ | ⟨v, w, rfl⟩
    · exact .compute rfl (sumOf_mirrors (first short) none)
    · exact .compute rfl (sumOf_mirrors (first short) (some w))
  | round =>
    rcases singleton_or_pair accepted with ⟨v, rfl⟩ | ⟨v, w, rfl⟩
    · exact .compute rfl (roundOf_mirrors v none)
    · exact .compute rfl (roundOf_mirrors v (some w))
  | pow =>
    obtain ⟨v, w, rfl⟩ := List.length_eq_two.mp accepted
    exact .compute rfl (.compute rfl (powOf_mirrors v w))
  | isinstance =>
    obtain ⟨v, w, rfl⟩ := List.length_eq_two.mp accepted
    exact .compute rfl (.compute rfl (isInstanceOf_mirrors v w))
  | zip => exact .plain _ s
  | range => exact rangeOfBounds_mirrors accepted.1 accepted.2
  | min => exact extremumOf_mirrors "min" .lt short
  | max => exact extremumOf_mirrors "max" .gt short

end Checked

end CallConsole
