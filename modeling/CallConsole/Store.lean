/-
**The store.**

The store holds the contents of lists and dicts, each at a place that is given out once, and the
number of the next unchanging object. Nothing is ever taken out of it.
-/

import CallConsole.Dict

namespace CallConsole

/-- The contents of all lists and dicts, and the number of the next unchanging object. -/
structure Store where
  lists : Array (Array Value)
  dicts : Array Dict
  next : Nat

/-- An operation on the store that may fail. There is a store after a failure, too: what has been
done until then stays done. -/
abbrev Action := EStateM Cause Store

namespace Store

/-- The store without objects. -/
def empty : Store := ⟨#[], #[], 0⟩

/-- The items of a list. -/
def items (s : Store) (place : Nat) : Array Value := s.lists[place]?.getD #[]

/-- The contents of a dict. -/
def contents (s : Store) (place : Nat) : Dict := s.dicts[place]?.getD Dict.empty

/-- Makes an unchanging object. -/
def create (s : Store) (make : Nat → Value) : Value × Store :=
  (make s.next, { s with next := s.next + 1 })

/-- Makes a list of the given items. -/
def createList (s : Store) (items : List Value) : Value × Store :=
  (.list s.lists.size, { s with lists := s.lists.push items.toArray })

/-- Makes a dict with the given contents. -/
def createDict (s : Store) (d : Dict) : Value × Store :=
  (.dict s.dicts.size, { s with dicts := s.dicts.push d })

/-- Changes the items of a list. -/
def changeList (s : Store) (place : Nat) (change : Array Value → Array Value) : Store :=
  { s with lists := s.lists.modify place change }

/-- Replaces the contents of a dict. -/
def replaceDict (s : Store) (place : Nat) (d : Dict) : Store :=
  { s with dicts := s.dicts.modify place fun _ => d }

end Store

namespace Action

/-- Fails. -/
def fail {α : Type} (cause : Cause) : Action α := fun s => .error cause s

/-- Reads from the store. -/
def read {α : Type} (f : Store → α) : Action α := fun s => .ok (f s) s

/-- Reads from the store, or fails. -/
def tryRead {α : Type} (f : Store → Except Cause α) : Action α := fun s =>
  match f s with
  | .ok a => .ok a s
  | .error cause => .error cause s

/-- Makes something in the store. -/
def make {α : Type} (f : Store → α × Store) : Action α := fun s =>
  let made := f s
  .ok made.1 made.2

/-- Changes the store. -/
def change (f : Store → Store) : Action Unit := fun s => .ok () (f s)

/-- Does something with the dict at a place; the dict after it is in the store whether it succeeds
or fails. -/
def changeDict {α : Type} (place : Nat) (f : Dict → EStateM.Result Cause Dict α) : Action α :=
  fun s =>
    match f (s.contents place) with
    | .ok a changed => .ok a (s.replaceDict place changed)
    | .error cause changed => .error cause (s.replaceDict place changed)

/-- Inserts into a dict that is still being built, and is lost with a failure. -/
def insertInto (d : Dict) (key v : Value) : Action Dict :=
  match d.insert key v with
  | .ok _ changed => pure changed
  | .error cause _ => fail cause

/-- Makes nothing. -/
def null : Action Value := make (·.create .null)

/-- Makes a boolean. -/
def bool (b : Bool) : Action Value := make (·.create (.bool · b))

/-- Makes an integer. -/
def int (n : Integer) : Action Value := make (·.create (.int · n))

/-- Makes a double. -/
def float (x : Double) : Action Value := make (·.create (.float · x))

/-- Makes a string. -/
def str (text : List Char) : Action Value := make (·.create (.str · text))

/-- Makes a tuple. -/
def tuple (items : List Value) : Action Value := make (·.create (.tuple · items))

/-- Makes a range. -/
def range (r : Range) : Action Value := make (·.create (.range · r))

/-- Makes a list. -/
def list (items : List Value) : Action Value := make (·.createList items)

/-- Makes a dict. -/
def dict (d : Dict) : Action Value := make (·.createDict d)

/-! ### What reading does -/

section TryRead

variable {α : Type} {f : Store → Except Cause α} {s s' : Store} {a : α} {cause : Cause}

theorem tryRead_of_ok (found : f s = .ok a) : tryRead f s = .ok a s := by
  rw [tryRead, found]

theorem tryRead_of_error (failed : f s = .error cause) : tryRead f s = .error cause s := by
  rw [tryRead, failed]

/-- What has been read was there, and the store is the same. -/
theorem ok_of_tryRead (ran : tryRead f s = .ok a s') : f s = .ok a ∧ s' = s := by
  unfold tryRead at ran
  split at ran <;> cases ran
  exact ⟨‹_›, rfl⟩

theorem error_of_tryRead (ran : tryRead f s = .error cause s') : f s = .error cause ∧ s' = s := by
  unfold tryRead at ran
  split at ran <;> cases ran
  exact ⟨‹_›, rfl⟩

end TryRead

/-! ### What inserting does to a dict that is being built -/

theorem insertInto_of_ok (d : Dict) {key : Value} {slot : Slot} (hashed : Slot.of? key = .ok slot)
    (v : Value) (s : Store) : insertInto d key v s = .ok (d.put ⟨slot, key, v, hashed⟩) s := by
  rw [insertInto, d.insert_of_ok hashed v]
  rfl

theorem insertInto_of_error (d : Dict) {key : Value} {cause : Cause}
    (failed : Slot.of? key = .error cause) (v : Value) (s : Store) :
    insertInto d key v s = .error cause s := by
  rw [insertInto, d.insert_of_error failed v]
  rfl

end Action

end CallConsole
