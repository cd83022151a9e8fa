/-
**Traversals by index.**

A machine goes through a tuple, a list or a reversed sequence by an index that it counts up, through
a range by an index below a length that it has computed, and through a reversed range by a count
that it takes down to zero. Each loop has as many steps as the cursor of the library has items
ahead, and must be at its end then.

* `next_eq`: a step yields the item that the cursor of the library yields, and no count overflows;
* `start_cases`: a traversal is opened exactly where the library opens a cursor;
* `drain_eq`, `any_eq`: the loops end, with what the library finds.
-/

import CallConsole.Proofs.Checked.Ranges
import CallConsole.Proofs.Traversal

namespace CallConsole

open Width

/-- A cursor that counts. -/
inductive Counter where
  /-- The items of a list from an index on, read from the list itself. -/
  | live (place index : Nat)
  /-- The items of a tuple or of a reversed sequence from an index on. -/
  | indexed (items : List Value) (index : Nat)
  /-- Dict keys, which are taken off one by one. -/
  | keys (items : List Value)
  | chars (text : List Char)
  /-- The elements of a range from an index on, up to a length. -/
  | forward (r : Range) (index length : Nat)
  | backward (r : Range) (remaining : Nat)
  | numbered (source : Counter) (index : Integer)
  | rows (sources : List Counter)

namespace Counter

mutual

/-- The cursor of the library that a counting one stands for. -/
def cursor : Counter → Cursor
  | .live place index => .live place index
  | .indexed items index => .fixed (items.drop index)
  | .keys items => .fixed items
  | .chars text => .chars text
  | .forward r index _ => .forward r index
  | .backward r remaining => .backward r remaining
  | .numbered source index => .numbered (cursor source) index
  | .rows sources => .rows (cursors sources)

def cursors : List Counter → List Cursor
  | [] => []
  | source :: rest => cursor source :: cursors rest

end

mutual

/-- What is gone through is short enough for a machine, and a length is that of its range. -/
def Sound (s : Store) : Counter → Prop
  | .live place _ => (s.items place).size < 2 ^ 63
  | .indexed items _ | .keys items => items.length < 2 ^ 63
  | .chars text => text.length < 2 ^ 63
  | .forward r _ length => length = r.length
  | .backward r remaining => remaining ≤ r.length
  | .numbered source _ => Sound s source
  | .rows sources => SoundAll s sources

def SoundAll (s : Store) : List Counter → Prop
  | [] => True
  | source :: rest => Sound s source ∧ SoundAll s rest

end

mutual

/-- **One step.** -/
def next (s : Store) : Counter → Checked (Option Item × Counter)
  | .live place index =>
    match (s.items place)[index]? with
    | some v => do
      let following ← Checked.countUp index
      .ok (some (.object v), .live place following)
    | none => .ok (none, .live place index)
  | .indexed items index =>
    match items[index]? with
    | some v => do
      let following ← Checked.countUp index
      .ok (some (.object v), .indexed items following)
    | none => .ok (none, .indexed items index)
  | .keys [] => .ok (none, .keys [])
  | .keys (v :: rest) => .ok (some (.object v), .keys rest)
  | .chars [] => .ok (none, .chars [])
  | .chars (c :: rest) => .ok (some (.char c), .chars rest)
  | .forward r index length =>
    if length ≤ index then .ok (none, .forward r index length)
    else do
      let n ← Checked.rangeElement r index
      let following ← Checked.countUp index
      .ok (some (.int n), .forward r following length)
  | .backward r remaining =>
    if remaining = 0 then .ok (none, .backward r remaining)
    else do
      let before ← Checked.countDown remaining
      let n ← Checked.rangeElement r before
      .ok (some (.int n), .backward r before)
  | .numbered source index => do
    match ← next s source with
    | (some item, moved) => .ok (some (.numbered index item), .numbered moved index.successor)
    | (none, moved) => .ok (none, .numbered moved index)
  | .rows [] => .ok (none, .rows [])
  | .rows (source :: rest) => do
    match ← nextAll s (source :: rest) with
    | (some items, moved) => .ok (some (.row items), .rows moved)
    | (none, moved) => .ok (none, .rows moved)

/-- One item of each cursor. -/
def nextAll (s : Store) : List Counter → Checked (Option (List Item) × List Counter)
  | [] => .ok (some [], [])
  | source :: rest => do
    match ← next s source with
    | (none, moved) => .ok (none, moved :: rest)
    | (some item, moved) =>
      match ← nextAll s rest with
      | (some items, others) => .ok (some (item :: items), moved :: others)
      | (none, others) => .ok (none, moved :: others)

end

variable {s : Store}

theorem next_rows (s : Store) {sources : List Counter} (nonempty : sources ≠ []) :
    next s (.rows sources) = (do
      match ← nextAll s sources with
      | (some items, moved) => .ok (some (.row items), .rows moved)
      | (none, moved) => .ok (none, .rows moved)) := by
  obtain ⟨source, rest, rfl⟩ := List.exists_cons_of_ne_nil nonempty
  rfl

mutual

/-- **A step yields what the cursor of the library yields**, and none of the counts overflows. -/
theorem next_eq (c : Counter) (sound : c.Sound s) : ∃ item moved,
    c.next s = .ok (item, moved) ∧ moved.Sound s ∧ c.cursor.next s = (item, moved.cursor) := by
  cases c with
  | live place index =>
    have short : (s.items place).size < 2 ^ 63 := sound
    simp only [next, cursor, Cursor.next]
    cases found : (s.items place)[index]? with
    | none => exact ⟨_, _, rfl, sound, rfl⟩
    | some v =>
      obtain ⟨inside, _⟩ := Array.getElem?_eq_some_iff.mp found
      have counted := Checked.countUp_of_lt (show index + 1 < 2 ^ 64 by omega)
      exact ⟨_, .live place (index + 1), by simp only [counted]; rfl, sound, rfl⟩
  | indexed items index =>
    have short : items.length < 2 ^ 63 := sound
    cases found : items[index]? with
    | none =>
      have nothing : items.drop index = [] :=
        List.drop_eq_nil_of_le (List.getElem?_eq_none_iff.mp found)
      refine ⟨none, .indexed items index, by simp only [next, found], sound, ?_⟩
      rw [cursor, nothing, Cursor.next]
    | some v =>
      obtain ⟨inside, rfl⟩ := List.getElem?_eq_some_iff.mp found
      have counted := Checked.countUp_of_lt (show index + 1 < 2 ^ 64 by omega)
      refine ⟨_, .indexed items (index + 1), by simp only [next, found, counted]; rfl, sound, ?_⟩
      rw [cursor, List.drop_eq_getElem_cons inside, Cursor.next, cursor]
  | keys items =>
    cases items with
    | nil => exact ⟨_, _, rfl, sound, rfl⟩
    | cons v rest => exact ⟨_, _, rfl, Nat.lt_of_succ_lt sound, rfl⟩
  | chars text =>
    cases text with
    | nil => exact ⟨_, _, rfl, sound, rfl⟩
    | cons c rest => exact ⟨_, _, rfl, Nat.lt_of_succ_lt sound, rfl⟩
  | forward r index length =>
    have limit := r.length_lt
    cases (show length = r.length from sound)
    rw [next, cursor, Cursor.next]
    by_cases inside : index < r.length
    · rw [if_neg (Nat.not_le.mpr inside), if_pos inside, Checked.rangeElement_eq r (by omega),
        Checked.ok_bind, Checked.countUp_of_lt (by omega), Checked.ok_bind]
      exact ⟨_, _, rfl, sound, rfl⟩
    · rw [if_pos (Nat.not_lt.mp inside), if_neg inside]
      exact ⟨_, _, rfl, sound, rfl⟩
  | backward r remaining =>
    have limit := r.length_lt
    have inside : remaining ≤ r.length := sound
    cases remaining with
    | zero => exact ⟨_, _, rfl, sound, rfl⟩
    | succ remaining =>
      rw [next, if_neg (Nat.succ_ne_zero remaining), Checked.countDown_succ (by omega),
        Checked.ok_bind, Checked.rangeElement_eq r (by omega), Checked.ok_bind]
      exact ⟨_, _, rfl, Nat.le_of_succ_le inside, rfl⟩
  | numbered source index =>
    obtain ⟨item, moved, stepped, sound', same⟩ := next_eq source sound
    rw [next, stepped, cursor, Cursor.next, same]
    cases item with
    | none => exact ⟨_, _, rfl, sound', rfl⟩
    | some item => exact ⟨_, _, rfl, sound', rfl⟩
  | rows sources =>
    by_cases empty : sources = []
    · cases empty
      exact ⟨_, _, rfl, sound, rfl⟩
    · obtain ⟨items, moved, stepped, sound', same⟩ := nextAll_eq sources sound
      have some : cursors sources ≠ [] := by cases sources <;> simp_all [cursors]
      rw [next_rows s empty, stepped, cursor, Cursor.next_rows s some, same]
      cases items with
      | none => exact ⟨_, _, rfl, sound', rfl⟩
      | some items => exact ⟨_, _, rfl, sound', rfl⟩

/-- A step of each traversal yields what one of each cursor yields. -/
theorem nextAll_eq (cs : List Counter) (sound : SoundAll s cs) : ∃ items moved,
    nextAll s cs = .ok (items, moved) ∧ SoundAll s moved ∧
      Cursor.nextAll s (cursors cs) = (items, cursors moved) := by
  cases cs with
  | nil => exact ⟨_, _, rfl, trivial, rfl⟩
  | cons c rest =>
    obtain ⟨item, moved, stepped, sound', same⟩ := next_eq c sound.1
    rw [nextAll, stepped, cursors, Cursor.nextAll, same]
    cases item with
    | none => exact ⟨_, _, rfl, ⟨sound', sound.2⟩, rfl⟩
    | some item =>
      obtain ⟨items, others, stepped', sound'', same'⟩ := nextAll_eq rest sound.2
      simp only [Checked.ok_bind, stepped', same']
      cases items with
      | none => exact ⟨_, _, rfl, ⟨sound', sound''⟩, rfl⟩
      | some items => exact ⟨_, _, rfl, ⟨sound', sound''⟩, rfl⟩

end

/-! ### Going through all items -/

/-- All items, in so many steps and one that finds the end. -/
def drain (s : Store) : Nat → Counter → Checked (List Item)
  | 0, c => do
    match ← c.next s with
    | (none, _) => .ok []
    | (some _, _) => .error .unfinished
  | count + 1, c => do
    match ← c.next s with
    | (none, _) => .ok []
    | (some item, moved) => do
      let items ← drain s count moved
      .ok (item :: items)

/-- Some item has the property; items after the first such one are not taken. -/
def any (s : Store) (holds : Item → Checked Bool) : Nat → Counter → Checked Bool
  | 0, c => do
    match ← c.next s with
    | (none, _) => .ok false
    | (some _, _) => .error .unfinished
  | count + 1, c => do
    match ← c.next s with
    | (none, _) => .ok false
    | (some item, moved) => do
      if ← holds item then .ok true else any s holds count moved

/-- With no steps remaining, a traversal is at its end. -/
theorem next_of_remaining_zero {c : Counter} (sound : c.Sound s)
    (none : c.cursor.remaining s = 0) : ∃ moved, c.next s = .ok (Option.none, moved) := by
  obtain ⟨item, moved, stepped, _, same⟩ := next_eq c sound
  have empty := List.eq_nil_of_length_eq_zero ((Cursor.length_ahead s c.cursor).trans none)
  have first := Cursor.next_eq_head? s c.cursor
  rw [same, empty] at first
  cases first
  exact ⟨moved, stepped⟩

/-- With steps remaining, a traversal yields an item and has one step less. -/
theorem next_of_remaining_succ {c : Counter} (sound : c.Sound s) {count : Nat}
    (some : c.cursor.remaining s = count + 1) : ∃ item moved,
      c.next s = .ok (Option.some item, moved) ∧ moved.Sound s ∧
        c.cursor.next s = (Option.some item, moved.cursor) ∧ moved.cursor.remaining s = count := by
  obtain ⟨item, moved, stepped, sound', same⟩ := next_eq c sound
  cases item with
  | none =>
    have empty := (Cursor.ahead_of_exhausts same).1
    rw [← Cursor.length_ahead, empty] at some
    cases some
  | some item =>
    have items := Cursor.ahead_of_yields same
    rw [← Cursor.length_ahead, items, List.length_cons] at some
    exact ⟨item, moved, stepped, sound', same,
      (Cursor.length_ahead s _).symm.trans (Nat.succ.inj some)⟩

/-- **All items are found, and the end behind them.** -/
theorem drain_eq {c : Counter} (sound : c.Sound s) {count : Nat}
    (steps : c.cursor.remaining s = count) : c.drain s count = .ok (c.cursor.drain s) := by
  rw [Cursor.drain, steps]
  induction count generalizing c with
  | zero =>
    obtain ⟨moved, stepped⟩ := next_of_remaining_zero sound steps
    rw [drain, stepped]
    rfl
  | succ count ih =>
    obtain ⟨item, moved, stepped, sound', same, fewer⟩ := next_of_remaining_succ sound steps
    rw [drain, stepped, Checked.ok_bind, Cursor.take, same]
    simp only [ih sound' fewer, Checked.ok_bind]

/-- **The first item with the property is found**, or the end. -/
theorem any_eq {c : Counter} (sound : c.Sound s) {holds : Item → Checked Bool}
    {test : Item → Bool} (tested : ∀ item, holds item = .ok (test item)) {count : Nat}
    (steps : c.cursor.remaining s = count) :
    c.any s holds count = .ok (c.cursor.any s test count) := by
  induction count generalizing c with
  | zero =>
    obtain ⟨moved, stepped⟩ := next_of_remaining_zero sound steps
    rw [any, stepped]
    rfl
  | succ count ih =>
    obtain ⟨item, moved, stepped, sound', same, fewer⟩ := next_of_remaining_succ sound steps
    rw [any, stepped, Checked.ok_bind, Cursor.any, same]
    simp only [tested, Checked.ok_bind, ih sound' fewer]
    cases test item <;> rfl

/-! ### The start -/

mutual

/-- A cursor at the start of a value. -/
def start (s : Store) : Value → Checked (Except Cause Counter)
  | .list place => .ok (.ok (.live place 0))
  | .dict place => .ok (.ok (.keys (s.contents place).keys))
  | .str _ text => .ok (.ok (.chars text))
  | .tuple _ items | .reversed _ items => .ok (.ok (.indexed items 0))
  | .range _ r => do
    let length ← Checked.rangeLength r
    .ok (.ok (.forward r 0 length))
  | .reversedRange _ r => do
    let length ← Checked.rangeLength r
    .ok (.ok (.backward r length))
  | .enumerate _ source first =>
    Checked.andThen (start s source) fun inner => .ok (.ok (.numbered inner first))
  | .zip _ sources => Checked.andThen (starts s sources) fun inner => .ok (.ok (.rows inner))
  | .null _ => .ok (.error (.notIterable .none))
  | .bool .. => .ok (.error (.notIterable .bool))
  | .int .. => .ok (.error (.notIterable .int))
  | .float .. => .ok (.error (.notIterable .float))

/-- A cursor at the start of each value. -/
def starts (s : Store) : List Value → Checked (Except Cause (List Counter))
  | [] => .ok (.ok [])
  | v :: rest =>
    Checked.andThen (start s v) fun first =>
      Checked.andThen (starts s rest) fun others => .ok (.ok (first :: others))

end

end Counter

namespace Store

mutual

/-- **What a traversal of the value goes through is short enough for a machine**: in no memory are
there `2 ^ 63` items or characters in a row. -/
def Addressable (s : Store) : Value → Prop
  | .list place => (s.items place).size < 2 ^ 63
  | .dict place => (s.contents place).length < 2 ^ 63
  | .str _ text => text.length < 2 ^ 63
  | .tuple _ items | .reversed _ items => items.length < 2 ^ 63
  | .enumerate _ source _ => Addressable s source
  | .zip _ sources => AddressableAll s sources
  | .null _ | .bool .. | .int .. | .float .. | .range .. | .reversedRange .. => True

/-- So is what a traversal of each of the values goes through. -/
def AddressableAll (s : Store) : List Value → Prop
  | [] => True
  | v :: rest => Addressable s v ∧ AddressableAll s rest

end

mutual

/-- New objects change nothing that is gone through. -/
theorem addressable_create (s : Store) (make : Nat → Value) (v : Value) :
    (s.create make).2.Addressable v ↔ s.Addressable v := by
  cases v with
  | enumerate id source start => exact addressable_create s make source
  | zip id sources => exact addressableAll_create s make sources
  | _ => exact Iff.rfl

theorem addressableAll_create (s : Store) (make : Nat → Value) (vs : List Value) :
    (s.create make).2.AddressableAll vs ↔ s.AddressableAll vs := by
  cases vs with
  | nil => exact Iff.rfl
  | cons v rest =>
    exact and_congr (addressable_create s make v) (addressableAll_create s make rest)

end

end Store

namespace Counter

variable {s : Store}

mutual

/-- **A traversal is opened exactly where the library opens a cursor.** -/
theorem start_cases (v : Value) (short : s.Addressable v) :
    (∃ cause, start s v = .ok (.error cause) ∧ s.cursor v = .error cause) ∨
      ∃ c : Counter, start s v = .ok (.ok c) ∧ c.Sound s ∧ s.cursor v = .ok c.cursor := by
  cases v with
  | null | bool | int | float => exact .inl ⟨_, rfl, rfl⟩
  | list place => exact .inr ⟨.live place 0, rfl, short, rfl⟩
  | dict place =>
    refine .inr ⟨.keys (s.contents place).keys, rfl, ?_, rfl⟩
    rw [Sound, Dict.keys, List.length_map]
    exact short
  | str id text => exact .inr ⟨.chars text, rfl, short, rfl⟩
  | tuple id items | reversed id items => exact .inr ⟨.indexed items 0, rfl, short, rfl⟩
  | range id r =>
    refine .inr ⟨.forward r 0 r.length, ?_, rfl, rfl⟩
    rw [start, Checked.rangeLength_eq]
    rfl
  | reversedRange id r =>
    refine .inr ⟨.backward r r.length, ?_, Nat.le_refl _, rfl⟩
    rw [start, Checked.rangeLength_eq]
    rfl
  | enumerate id source first =>
    rw [start, Store.cursor]
    rcases start_cases source short with ⟨cause, opened, failed⟩ | ⟨c, opened, sound, same⟩
    · exact .inl ⟨cause, by rw [opened]; rfl, by rw [failed]; rfl⟩
    · exact .inr ⟨.numbered c first, by rw [opened]; rfl, sound, by rw [same]; rfl⟩
  | zip id sources =>
    rw [start, Store.cursor]
    rcases starts_cases sources short with ⟨cause, opened, failed⟩ | ⟨cs, opened, sound, same⟩
    · exact .inl ⟨cause, by rw [opened]; rfl, by rw [failed]; rfl⟩
    · exact .inr ⟨.rows cs, by rw [opened]; rfl, sound, by rw [same]; rfl⟩

/-- Traversals are opened exactly where the library opens cursors. -/
theorem starts_cases (vs : List Value) (short : s.AddressableAll vs) :
    (∃ cause, starts s vs = .ok (.error cause) ∧ s.cursors vs = .error cause) ∨
      ∃ cs, starts s vs = .ok (.ok cs) ∧ SoundAll s cs ∧ s.cursors vs = .ok (cursors cs) := by
  cases vs with
  | nil => exact .inr ⟨[], rfl, trivial, rfl⟩
  | cons v rest =>
    rw [starts, Store.cursors]
    rcases start_cases v short.1 with ⟨cause, opened, failed⟩ | ⟨c, opened, sound, same⟩
    · exact .inl ⟨cause, by rw [opened]; rfl, by rw [failed]⟩
    rw [opened, same, Checked.andThen_ok]
    rcases starts_cases rest short.2 with ⟨cause, opened', failed⟩ | ⟨cs, opened', sound', same'⟩
    · exact .inl ⟨cause, by rw [opened']; rfl, by simp only [failed]; rfl⟩
    · exact .inr ⟨c :: cs, by rw [opened']; rfl, ⟨sound, sound'⟩, by simp only [same']; rfl⟩

end

/-! ### The number of steps -/

theorem remainingLeast_le (s : Store) (bound : Nat) (cs : List Cursor) :
    Cursor.remainingLeast s bound cs ≤ bound := by
  induction cs generalizing bound with
  | nil => exact Nat.le_refl _
  | cons c rest ih => exact Nat.le_trans (ih _) (Nat.min_le_left _ _)

/-- **A traversal has fewer than `2 ^ 64` steps.** -/
theorem remaining_lt (c : Counter) (sound : c.Sound s) : c.cursor.remaining s < 2 ^ 64 := by
  cases c with
  | live place index =>
    have short : (s.items place).size < 2 ^ 63 := sound
    rw [cursor, Cursor.remaining]
    omega
  | indexed items index =>
    have short : items.length < 2 ^ 63 := sound
    rw [cursor, Cursor.remaining, List.length_drop]
    omega
  | keys items | chars items =>
    have short : items.length < 2 ^ 63 := sound
    rw [cursor, Cursor.remaining]
    omega
  | forward r index length =>
    have limit := r.length_lt
    rw [cursor, Cursor.remaining]
    omega
  | backward r remaining =>
    have limit := r.length_lt
    have inside : remaining ≤ r.length := sound
    rw [cursor, Cursor.remaining]
    omega
  | numbered source index => exact remaining_lt source sound
  | rows sources =>
    cases sources with
    | nil => exact Nat.two_pow_pos 64
    | cons source rest =>
      exact Nat.lt_of_le_of_lt (remainingLeast_le s _ _) (remaining_lt source sound.1)

end Counter

end CallConsole
