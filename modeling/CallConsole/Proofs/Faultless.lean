/-
**Calls and subscripts do not go wrong.**

A call of a machine finds the function, checks the number of arguments and hands them over as they
are; a subscript computes an index and takes the item there. With values that a machine can hold,
none of this leads to an overflow, a division by zero, an access outside of a sequence, a text that
is not of the expected form, or a branch that is there for form's sake:

* `invoke_eq`: a call of any function with any number of arguments of any values answers as in the
  library;
* `getItem_eq`, `setItem_eq`: so does every subscript and every assignment to one;
* `answers_without_fault`: both.
-/

import CallConsole.Proofs.Checked.Builtins
import CallConsole.Proofs.Runs
import CallConsole.Subscript

namespace CallConsole

namespace Checked

open CheckedAction

variable {s : Store} {w : World}

/-! ### Calls -/

/-- Does something in the store. -/
def act {α : Type} (action : CheckedAction α) (w : World) : Checked (Except Failure α × World) := do
  match ← action w.store with
  | .ok a s => .ok (.ok a, { w with store := s })
  | .error cause s => .ok (.error (.ofCause cause), { w with store := s })

/-- The line that `print` writes for its arguments. -/
def printedLine (s : Store) (arguments : List Value) : Checked (List Char) := do
  let texts ← arguments.mapM (str s)
  .ok (Builtin.spaced texts ++ ['\n'])

/-- Prints the arguments on one line, which is complete before anything is written. -/
def printAll (arguments : List Value) (w : World) : Checked (Except Failure Value × World) := do
  let line ← printedLine w.store arguments
  .ok ((do Run.print line; Run.act Action.null : Run Value).outcome w)

/-- Calls a function. -/
def call (function : Builtin) (arguments : List Value) (w : World) :
    Checked (Except Failure Value × World) :=
  match function.arity.check function.name arguments.length with
  | .error cause => .ok (.error (.ofCause cause), w)
  | .ok () =>
    match function with
    | .print => printAll arguments w
    | _ => act (body function arguments) w

/-- Calls the function of a name. -/
def invoke (name : String) (arguments : List Value) (w : World) :
    Checked (Except Failure Value × World) :=
  match Builtin.find? name with
  | some function => call function arguments w
  | none => .ok (.error (.ofCause (.undefinedName name)), w)

theorem act_eq {α : Type} {checked : CheckedAction α} {action : Action α}
    (mirrors : Mirrors checked action w.store) :
    act checked w = .ok ((Run.act action).outcome w) := by
  unfold Mirrors at mirrors
  rw [act, mirrors, ok_bind, Run.outcome, Run.act]
  cases action w.store <;> rfl

theorem printedLine_eq (s : Store) (arguments : List Value) :
    printedLine s arguments = .ok (Builtin.printedLine s arguments) := by
  rw [printedLine, mapM_of_forall fun v _ => str_eq s v, ok_bind, Builtin.printedLine]

theorem printAll_eq (arguments : List Value) (w : World) :
    printAll arguments w = .ok ((Builtin.printAll arguments).outcome w) := by
  rw [printAll, printedLine_eq, ok_bind]
  rfl

/-- **A call does not go wrong**, whatever the number of the arguments is. -/
theorem call_eq (function : Builtin) {arguments : List Value}
    (short : ∀ v ∈ arguments, w.store.Addressable v) :
    call function arguments w = .ok ((function.call arguments).outcome w) := by
  unfold call
  by_cases accepted : function.arity.Accepts arguments.length
  · have checked : function.arity.check function.name arguments.length = .ok () := if_pos accepted
    rw [checked, Run.outcome, Builtin.call_of_accepts accepted]
    by_cases silent : function = .print
    · subst silent
      exact printAll_eq arguments w
    · rw [if_neg silent]
      have answered := act_eq (body_mirrors silent accepted short)
      cases function with
      | print => exact absurd rfl silent
      | _ => exact answered
  · have refused : function.arity.check function.name arguments.length =
        .error (.wrongArgumentCount function.name function.arity arguments.length) :=
      if_neg accepted
    rw [refused, Run.outcome, Builtin.call_of_not_accepts accepted]

/-- **Calling a function by name does not go wrong**, whatever the name is. -/
theorem invoke_eq (name : String) {arguments : List Value}
    (short : ∀ v ∈ arguments, w.store.Addressable v) :
    invoke name arguments w = .ok ((Builtin.invoke name arguments).outcome w) := by
  unfold invoke Builtin.invoke
  cases Builtin.find? name with
  | none => rfl
  | some function => exact call_eq function short

/-! ### Subscripts -/

/-- The item at a position of a sequence. -/
def itemOf (indexed : Indexed) (items : List Value) (index : Value) :
    Checked (Except Cause Value) :=
  andThen (position indexed items.length index) fun slot => .ok <$> itemAt items slot

/-- The character at a position of a text, as a new string. -/
def characterAt (text : List Char) (index : Value) : CheckedAction Value := do
  let c ← tryRead fun _ =>
    andThen (position .string text.length index) fun slot => .ok <$> expected text[slot]?
  plain (Action.str [c])

/-- The value of a key of a dict. The failure that there is none shows the key. -/
def valueOf (place : Nat) (key : Value) : CheckedAction Value := tryRead fun s =>
  match (s.contents place).get? key with
  | .error cause => .ok (.error cause)
  | .ok (some v) => .ok (.ok v)
  | .ok none => do
    let shown ← repr s key
    .ok (.error (.keyNotFound shown))

/-- `on[index]` -/
def getItem (on index : Value) : CheckedAction Value :=
  match on with
  | .list place => tryRead fun s => itemOf .list (s.items place).toList index
  | .tuple _ items => tryRead fun _ => itemOf .tuple items index
  | .str _ text => characterAt text index
  | .dict place => valueOf place index
  | _ => plain (Action.fail (.notSubscriptable on.type))

/-- Writes an item of a list. There must be one at the index. -/
def writeItem (place slot : Nat) (v : Value) : CheckedAction Unit := fun s =>
  if slot < (s.items place).size then
    .ok (.ok () (s.changeList place fun items => items.setIfInBounds slot v))
  else .error .outOfBounds

/-- `on[index] = v` for lists and dicts. The index and the slot of a key are found without looking
at the store, so nothing reads a list or dict while it is lent out for writing. -/
def setItem (on index v : Value) : CheckedAction Unit :=
  match on with
  | .list place => do
    let slot ← tryRead fun s => position .listAssignment (s.items place).size index
    writeItem place slot v
  | _ => plain (Action.setItem on index v)

/-- The index that a position stands for lies inside. -/
theorem position_lt {indexed : Indexed} {length : Nat} {index : Value} {slot : Nat}
    (found : CallConsole.position indexed length index = .ok slot) : slot < length := by
  unfold CallConsole.position at found
  split at found
  case h_1 => cases found
  case h_2 n _ =>
    generalize (if n.toInt < 0 then n.toInt + (length : Int) else n.toInt) = resolved at found
    dsimp only at found
    split at found
    case isTrue inside =>
      cases found
      omega
    case isFalse => cases found

theorem itemOf_eq (indexed : Indexed) {items : List Value} (short : items.length < 2 ^ 63)
    (index : Value) :
    itemOf indexed items index = .ok (CallConsole.itemAt indexed items index) := by
  rw [itemOf, position_eq indexed short, CallConsole.itemAt]
  cases found : CallConsole.position indexed items.length index with
  | error cause => rfl
  | ok slot =>
    have there := List.getElem?_eq_getElem (position_lt found)
    rw [andThen_ok, itemAt_of_getElem? there]
    simp only [there]
    rfl

theorem sequence_mirrors (items : Store → List Value) (indexed : Indexed)
    (short : (items s).length < 2 ^ 63) (index : Value) :
    Mirrors (tryRead fun s => itemOf indexed (items s) index)
      (Action.tryRead fun s => CallConsole.itemAt indexed (items s) index) s :=
  .tryRead (itemOf_eq indexed short index)

theorem characterAt_mirrors {text : List Char} (short : text.length < 2 ^ 63) (index : Value) :
    Mirrors (characterAt text index) (Action.characterAt text index) s := by
  unfold characterAt Action.characterAt
  rw [position_eq .string short]
  cases found : CallConsole.position .string text.length index with
  | error cause => rfl
  | ok slot =>
    obtain ⟨c, there⟩ : ∃ c, text[slot]? = some c :=
      ⟨_, List.getElem?_eq_getElem (position_lt found)⟩
    have answered : (andThen (.ok (.ok slot)) fun slot => .ok <$> expected text[slot]?) =
        (.ok (.ok c) : Checked (Except Cause Char)) := by
      rw [andThen_ok, there]
      rfl
    simp only [answered, there]
    rfl

theorem valueOf_mirrors (place : Nat) (key : Value) :
    Mirrors (valueOf place key) (Action.valueOf place key) s := by
  refine .tryRead ?_
  rw [repr_eq, ok_bind]
  cases (s.contents place).get? key with
  | error cause => rfl
  | ok found => cases found <;> rfl

/-- **A subscript does not go wrong**, whatever the index is. -/
theorem getItem_eq {on : Value} (short : s.Addressable on) (index : Value) :
    getItem on index s = .ok (Action.getItem on index s) := by
  cases on with
  | list place =>
    exact sequence_mirrors (fun s => (s.items place).toList) .list short index
  | tuple id items => exact sequence_mirrors (fun _ => items) .tuple short index
  | str id text => exact characterAt_mirrors short index
  | dict place => exact valueOf_mirrors place index
  | _ => rfl

/-- **An assignment to a subscript does not go wrong**, whatever the index is. -/
theorem setItem_eq {on : Value} (short : s.Addressable on) (index v : Value) :
    setItem on index v s = .ok (Action.setItem on index v s) := by
  cases on with
  | list place =>
    have length : (s.items place).size < 2 ^ 63 := short
    exact Mirrors.tryRead_bind (position_eq .listAssignment length index) fun slot found =>
      if_pos (position_lt found)
  | _ => rfl

/-! ### Both -/

/-- **Every call and every subscript answers, and goes wrong nowhere.** In particular the arithmetic
of ranges and the rounding of integers and doubles do not, for all integers and any number of
places, and neither does the layout of a double. -/
theorem answers_without_fault (w : World) :
    (∀ (name : String) (arguments : List Value), (∀ v ∈ arguments, w.store.Addressable v) →
      invoke name arguments w = .ok ((Builtin.invoke name arguments).outcome w)) ∧
    (∀ on : Value, w.store.Addressable on → ∀ index v : Value,
      getItem on index w.store = .ok (Action.getItem on index w.store) ∧
        setItem on index v w.store = .ok (Action.setItem on index v w.store)) ∧
    (∀ r : Range, rangeLength r = .ok r.length ∧
      ∀ index < r.length, rangeElement r index = .ok (r.element index)) ∧
    (∀ n places : Integer, roundTo? n places = .ok (n.roundTo? places)) ∧
    (∀ (x : Double) (places : Integer), floatRounded x places = .ok (x.roundTo places.toInt)) ∧
    ∀ x : Double, floatText x = .ok x.text := by
  refine ⟨fun name arguments short => invoke_eq name short, fun on short index v => ?_, fun r => ?_,
    roundTo?_eq, floatRounded_eq, floatText_eq⟩
  · exact ⟨getItem_eq short index, setItem_eq short index v⟩
  · exact ⟨rangeLength_eq r, fun index inside =>
      rangeElement_eq r (Nat.lt_trans inside r.length_lt)⟩

/-- A string is sorted, and its last character is found. -/
theorem answers_without_fault_string :
    World.empty.store.Addressable (.str 0 ['b', 'a']) ∧
      invoke "sorted" [.str 0 ['b', 'a']] World.empty =
        .ok ((Builtin.invoke "sorted" [.str 0 ['b', 'a']]).outcome World.empty) ∧
      getItem (.str 0 ['b', 'a']) (.int 1 (-1)) Store.empty =
        .ok (.ok (.str 0 ['a']) ⟨#[], #[], 1⟩) := by
  have short : World.empty.store.Addressable (.str 0 ['b', 'a']) := by
    show 2 < 2 ^ 63
    decide
  obtain ⟨calls, subscripts, _⟩ := answers_without_fault World.empty
  refine ⟨short, calls "sorted" [.str 0 ['b', 'a']] fun v member => ?_, ?_⟩
  · cases List.mem_singleton.mp member
    exact short
  · exact (subscripts (.str 0 ['b', 'a']) short (.int 1 (-1)) (.null 2)).1.trans rfl

end Checked

end CallConsole
