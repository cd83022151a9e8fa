/-
**Programs on values.**

A program is a sequence of steps on a machine: a store, variables bound to objects, and cursors in
the middle of a traversal. Each step makes its operands, does one thing with them and gives an
answer; a step that fails binds nothing, and the program goes on.
-/

import CallConsole.Console
import CallConsole.Subscript

namespace CallConsole

/-- How an operand is made. Every operand is a new object, except a variable, which is the object
that is bound to it. -/
inductive Operand where
  | null
  | bool (b : Bool)
  | int (n : Integer)
  | float (x : Double)
  | str (text : List Char)
  | list (items : List Operand)
  | tuple (items : List Operand)
  | dict (entries : List (Operand × Operand))
  /-- The result of a function; what it prints is dropped. -/
  | call (function : String) (arguments : List Operand)
  /-- The value of an expression on a console of its own. -/
  | source (text : List Char)
  | variable (name : String)

/-- One step of a program. -/
inductive Step where
  | bind (value : Operand)
  | call (function : String) (arguments : List Operand)
  | getItem (on index : Operand)
  | setItem (on index value : Operand)
  | append (on value : Operand)
  | add (on other : Operand)
  | contains (on item : Operand)
  | compare (on other : Operand)
  | equal (on other : Operand)
  | same (on other : Operand)
  | truthy (on : Operand)
  | iterable (on : Operand)
  | isNull (on : Operand)
  | isInstance (on : Operand) (typeName : String)
  | str (on : Operand)
  | length (on : Operand)
  | integer (on : Operand)
  | text (on : Operand)
  | sequence (on : Operand)
  | iterate (on : Operand) (cursor : String)
  | next (cursor : String)
  | rangeLength (on : Operand)
  | rangeEmpty (on : Operand)
  | rangeElement (on : Operand) (index : Nat)
  | dictInsert (on key value : Operand)
  | dictGet (on key : Operand)
  | dictHas (on key : Operand)
  | dictLength (on : Operand)
  | dictKeys (on : Operand)
  | dictValues (on : Operand)

/-- What a step answers. -/
inductive Answer where
  | nothing
  | value (v : Value)
  | values (vs : List Value)
  | truth (b : Bool)
  | order (o : Ordering)
  | number (n : Int)
  | text (cs : List Char)
  | size (length : Nat)
  | exhausted

/-- What a step did: its outcome, what it printed, and the text of what it was to change. -/
structure StepReport where
  outcome : Except Failure Answer
  printed : List Char
  after : Option (List Char)

/-- What steps act on. -/
structure Machine where
  world : World
  bindings : List (String × Value)
  cursors : List (String × Cursor)

namespace Machine

/-- The machine before the first step. -/
def start (mode : SinkMode) : Machine := ⟨⟨Store.empty, ⟨mode, []⟩⟩, [], []⟩

/-- Looks a name up; the latest binding counts. -/
def lookup {α : Type} (name : String) (table : List (String × α)) : Option α :=
  (table.find? (·.1 = name)).map (·.2)

/-- Binds a name. -/
def rebind {α : Type} (name : String) (a : α) (table : List (String × α)) : List (String × α) :=
  (name, a) :: table.filter (·.1 ≠ name)

end Machine

namespace Operand

/-- Does something with a sink of its own, whose contents are dropped. -/
def quietly {α : Type} (run : Run α) : Run α := fun w =>
  match run { w with sink := Sink.empty } with
  | .ok a after => .ok a { after with sink := w.sink }
  | .error failure after => .error failure { after with sink := w.sink }

mutual

/-- **Makes an operand.** -/
def make (bindings : List (String × Value)) : Operand → Run Value
  | .null => Run.act Action.null
  | .bool b => Run.act (Action.bool b)
  | .int n => Run.act (Action.int n)
  | .float x => Run.act (Action.float x)
  | .str text => Run.act (Action.str text)
  | .list items => do
    let values ← makeAll bindings items
    Run.act (Action.list values)
  | .tuple items => do
    let values ← makeAll bindings items
    Run.act (Action.tuple values)
  | .dict entries => do
    let d ← makeEntries bindings Dict.empty entries
    Run.act (Action.dict d)
  | .call function arguments => do
    let values ← makeAll bindings arguments
    quietly (Builtin.invoke function values)
  | .source text => quietly (Console.evalSource text)
  | .variable name =>
    match Machine.lookup name bindings with
    | some v => pure v
    | none => Run.act (Action.fail (.undefinedName name))

/-- Makes operands from left to right. -/
def makeAll (bindings : List (String × Value)) : List Operand → Run (List Value)
  | [] => pure []
  | term :: rest => do
    let v ← make bindings term
    let vs ← makeAll bindings rest
    pure (v :: vs)

/-- Makes the entries of a dict, one after another. -/
def makeEntries (bindings : List (String × Value)) (d : Dict) :
    List (Operand × Operand) → Run Dict
  | [] => pure d
  | (key, value) :: rest => do
    let k ← make bindings key
    let v ← make bindings value
    let changed ← Run.act (Action.insertInto d k v)
    makeEntries bindings changed rest

end

end Operand

/-- A value of the wrong type for a step that is about one type only. -/
def Action.failType {α : Type} (v : Value) : Action α := Action.fail (.notSubscriptable v.type)

namespace Step

/-- The range that a value is. -/
def rangeOf (v : Value) : Action Range :=
  match v with
  | .range _ r => pure r
  | _ => Action.failType v

/-- The place of the dict that a value is. -/
def dictOf (v : Value) : Action Nat :=
  match v with
  | .dict place => pure place
  | _ => Action.failType v

/-- The answer that a value is. -/
def answerValue (found : Option Value) : Answer :=
  match found with
  | some v => .value v
  | none => .nothing

/-- The answer of a step on operands that are made already. -/
def act : Step → List Value → Action Answer
  | .bind _, [v] => pure (.value v)
  | .getItem .., [on, index] => .value <$> Action.getItem on index
  | .setItem .., [on, index, v] => (fun _ => .nothing) <$> Action.setItem on index v
  | .append .., [on, v] => (fun _ => .nothing) <$> Action.append on v
  | .add .., [on, other] => .value <$> Action.add on other
  | .contains .., [on, item] => .truth <$> Action.tryRead (·.contains on item)
  | .compare .., [on, other] => .order <$> Action.tryRead (·.compare on other)
  | .equal .., [on, other] => .truth <$> Action.read (·.equal on other)
  | .same .., [on, other] => pure (.truth (on.same other))
  | .truthy _, [on] => .truth <$> Action.read (·.truthy on)
  | .iterable _, [on] => pure (.truth on.iterable)
  | .isNull _, [on] => pure (.truth on.isNull)
  | .isInstance _ typeName, [on] => pure (.truth (on.isInstance typeName))
  | .str _, [on] => .text <$> Action.read (·.str on)
  | .length _, [on] => do
    match ← Action.read (·.length? on) with
    | some n => pure (.number n)
    | none => pure .nothing
  | .integer _, [on] =>
    match on.integer? with
    | some n => pure (.number n.toInt)
    | none => pure .nothing
  | .text _, [on] =>
    match on.text? with
    | some cs => pure (.text cs)
    | none => pure .nothing
  | .sequence _, [on] => do
    match ← Action.read (·.sequence? on) with
    | some items => pure (.values items)
    | none => pure .nothing
  | .rangeLength _, [on] => do
    let r ← rangeOf on
    pure (.number r.length)
  | .rangeEmpty _, [on] => do
    let r ← rangeOf on
    pure (.truth (r.length = 0))
  | .rangeElement _ index, [on] => do
    let r ← rangeOf on
    pure (.number (r.element index).toInt)
  | .dictInsert .., [on, key, v] => do
    let place ← dictOf on
    answerValue <$> Action.insert place key v
  | .dictGet .., [on, key] => do
    let place ← dictOf on
    answerValue <$> Action.tryRead fun s => (s.contents place).get? key
  | .dictHas .., [on, key] => do
    let place ← dictOf on
    .truth <$> Action.tryRead fun s => (s.contents place).contains key
  | .dictLength _, [on] => do
    let place ← dictOf on
    .size <$> Action.read fun s => (s.contents place).length
  | .dictKeys _, [on] => do
    let place ← dictOf on
    .values <$> Action.read fun s => (s.contents place).keys
  | .dictValues _, [on] => do
    let place ← dictOf on
    .values <$> Action.read fun s => (s.contents place).values
  | _, _ => pure .nothing

/-- The value of the step can be bound to a variable. -/
def binds : Step → Bool
  | .bind _ | .call .. | .getItem .. | .add .. | .next _ => true
  | _ => false

/-- The operand that the step is there to change. -/
def changed? : Step → Option Operand
  | .append on _ | .setItem on _ _ | .dictInsert on _ _ => some on
  | _ => none

/-- The operands of a step, in the order in which they are made. -/
def operands : Step → List Operand
  | .bind v | .truthy v | .iterable v | .isNull v | .isInstance v _ | .str v | .length v
  | .integer v | .text v | .sequence v | .iterate v _ | .rangeLength v | .rangeEmpty v
  | .rangeElement v _ | .dictLength v | .dictKeys v | .dictValues v => [v]
  | .getItem on other | .append on other | .add on other | .contains on other | .compare on other
  | .equal on other | .same on other | .dictGet on other | .dictHas on other => [on, other]
  | .setItem on key v | .dictInsert on key v => [on, key, v]
  | .call _ arguments => arguments
  | .next _ => []

end Step

namespace Machine

/-- The machine with nothing in its sink. -/
def withoutOutput (m : Machine) : Machine :=
  { m with world := { m.world with sink := { m.world.sink with stored := [] } } }

/-- Runs something in the world of the machine. -/
def perform {α : Type} (m : Machine) (run : Run α) : Except Failure α × Machine :=
  let (outcome, w) := run.outcome m.world
  (outcome, { m with world := w })

/-- **One step.** -/
def step (m : Machine) (step : Step) : Except Failure Answer × Machine :=
  match m.perform (Operand.makeAll m.bindings step.operands) with
  | (.error failure, m) => (.error failure, m)
  | (.ok values, m) =>
    match step, values with
    | .call function _, arguments =>
      match m.perform (Builtin.invoke function arguments) with
      | (.error failure, m) => (.error failure, m)
      | (.ok v, m) => (.ok (.value v), m)
    | .iterate _ name, [on] =>
      match m.world.store.cursor on with
      | .error cause => (.error (.ofCause cause), m)
      | .ok cursor => (.ok .nothing, { m with cursors := rebind name cursor m.cursors })
    | .next name, _ =>
      match lookup name m.cursors with
      | none => (.error (.ofCause (.undefinedName name)), m)
      | some cursor =>
        match cursor.next m.world.store with
        | (none, moved) => (.ok .exhausted, { m with cursors := rebind name moved m.cursors })
        | (some item, moved) =>
          let (v, s) := item.create m.world.store
          (.ok (.value v),
            { m with
              world := { m.world with store := s }
              cursors := rebind name moved m.cursors })
    | step, values => m.perform (Run.act (step.act values))

/-- The text of an operand that is made for this purpose only. -/
def textAfter (m : Machine) (term : Operand) : Option (List Char) × Machine :=
  match m.perform (term.make m.bindings) with
  | (.error _, m) => (none, m)
  | (.ok v, m) => (some (m.world.store.repr v), m)

/-- Binds the value that a step answered to the name given for it. -/
def bindAnswer (m : Machine) (target : Option String) (step : Step)
    (outcome : Except Failure Answer) : Machine :=
  match outcome, target with
  | .ok (.value v), some name =>
    if step.binds then { m with bindings := rebind name v m.bindings } else m
  | _, _ => m

/-- **One step of a program**, with the variable that its value is bound to, if there is one. -/
def run (m : Machine) (target : Option String) (step : Step) : StepReport × Machine :=
  let (outcome, m) := m.withoutOutput.step step
  let m := m.bindAnswer target step outcome
  let printed := m.world.sink.stored
  match step.changed? with
  | none => (⟨outcome, printed, none⟩, m)
  | some on =>
    let (after, m) := m.textAfter on
    (⟨outcome, printed, after⟩, m)

end Machine

end CallConsole
