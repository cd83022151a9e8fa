/-
**Slots agree with equality.**

A dict finds an entry by the slot of its key, and never compares keys. This finds the equal key all
the same: `slot_eq_iff_equal` says that two keys without NaN have one slot exactly when they are
equal, `slot_eq_iff_of_left` that it is enough if one of them is without NaN, and `unhashable_iff`
which values have no slot.
-/

import CallConsole.Proofs.Equality

namespace CallConsole

/-! ### Values without a slot -/

/-- The value is a list, a dict or a lazy sequence, or a tuple that holds such a value at any
depth. -/
inductive Value.Unhashable : Value → Prop
  | list (place : Nat) : Unhashable (.list place)
  | dict (place : Nat) : Unhashable (.dict place)
  | range (id : Nat) (r : Range) : Unhashable (.range id r)
  | reversed (id : Nat) (items : List Value) : Unhashable (.reversed id items)
  | reversedRange (id : Nat) (r : Range) : Unhashable (.reversedRange id r)
  | enumerate (id : Nat) (source : Value) (start : Integer) :
      Unhashable (.enumerate id source start)
  | zip (id : Nat) (sources : List Value) : Unhashable (.zip id sources)
  | tuple (id : Nat) {items : List Value} {v : Value} :
      v ∈ items → Unhashable v → Unhashable (.tuple id items)

namespace Slot

mutual

/-- **A value without a slot is a list, a dict or a lazy sequence, or a tuple that holds one.** The
failure names a type. -/
theorem unhashable_of_error {v : Value} {cause : Cause} (failed : of? v = .error cause) :
    v.Unhashable ∧ ∃ type, cause = .unhashable type := by
  cases v with
  | tuple id items =>
    rw [of?] at failed
    cases slots : ofItems? items with
    | ok slots' =>
      rw [slots] at failed
      cases failed
    | error cause' =>
      rw [slots] at failed
      cases failed
      obtain ⟨v, member, without, type⟩ := unhashable_of_items_error slots
      exact ⟨.tuple id member without, type⟩
  | list place => exact ⟨.list place, _, (Except.error.inj failed).symm⟩
  | dict place => exact ⟨.dict place, _, (Except.error.inj failed).symm⟩
  | range id r => exact ⟨.range id r, _, (Except.error.inj failed).symm⟩
  | reversed id items => exact ⟨.reversed id items, _, (Except.error.inj failed).symm⟩
  | reversedRange id r => exact ⟨.reversedRange id r, _, (Except.error.inj failed).symm⟩
  | enumerate id source start =>
    exact ⟨.enumerate id source start, _, (Except.error.inj failed).symm⟩
  | zip id sources => exact ⟨.zip id sources, _, (Except.error.inj failed).symm⟩
  | null | bool | int | float | str => cases failed

theorem unhashable_of_items_error {items : List Value} {cause : Cause}
    (failed : ofItems? items = .error cause) :
    ∃ v ∈ items, v.Unhashable ∧ ∃ type, cause = .unhashable type := by
  cases items with
  | nil => cases failed
  | cons item rest =>
    rw [ofItems?] at failed
    split at failed
    case h_1 cause' first =>
      cases failed
      obtain ⟨without, type⟩ := unhashable_of_error first
      exact ⟨item, List.mem_cons_self, without, type⟩
    case h_2 =>
      cases slots : ofItems? rest with
      | ok slots' =>
        rw [slots] at failed
        cases failed
      | error cause' =>
        rw [slots] at failed
        cases failed
        obtain ⟨v, member, without, type⟩ := unhashable_of_items_error slots
        exact ⟨v, List.mem_cons_of_mem item member, without, type⟩

end

/-- A tuple has a slot exactly when all its items have one. -/
theorem of?_tuple {id : Nat} {items : List Value} {slot : Slot} :
    of? (.tuple id items) = .ok slot ↔
      ∃ slots, ofItems? items = .ok slots ∧ slot = .tuple slots := by
  rw [of?]
  cases ofItems? items with
  | error cause => simp [Except.map]
  | ok slots => simp [Except.map, eq_comm]

/-- The slots of items are those of the first one and of the rest. -/
theorem ofItems?_cons {item : Value} {rest : List Value} {slots : List Slot} :
    ofItems? (item :: rest) = .ok slots ↔
      ∃ first others, of? item = .ok first ∧ ofItems? rest = .ok others ∧
        slots = first :: others := by
  rw [ofItems?]
  cases of? item with
  | error cause => simp
  | ok first =>
    cases ofItems? rest with
    | error cause => simp [Except.map]
    | ok others => simp [Except.map, eq_comm]

/-- Where all items have slots, each of them has one. -/
theorem exists_of_mem_ofItems? {items : List Value} {slots : List Slot}
    (found : ofItems? items = .ok slots) {v : Value} (member : v ∈ items) :
    ∃ slot, of? v = .ok slot := by
  induction items generalizing slots with
  | nil => cases member
  | cons item rest ih =>
    obtain ⟨first, others, head, tail, _⟩ := ofItems?_cons.mp found
    rcases List.mem_cons.mp member with rfl | later
    · exact ⟨first, head⟩
    · exact ih tail later

/-- Nothing of the listed kinds has a slot. -/
theorem error_of_unhashable {v : Value} (without : v.Unhashable) :
    ∃ cause, of? v = .error cause := by
  induction without with
  | @tuple id items v member _ ih =>
    obtain ⟨cause, failed⟩ := ih
    cases slots : ofItems? items with
    | error cause' =>
      refine ⟨cause', ?_⟩
      rw [of?, slots]
      rfl
    | ok slots' =>
      obtain ⟨slot, found⟩ := exists_of_mem_ofItems? slots member
      rw [failed] at found
      cases found
  | _ => exact ⟨_, rfl⟩

/-- **Exactly the lists, dicts and lazy sequences, and the tuples that hold one, have no slot.** -/
theorem unhashable_iff {v : Value} : v.Unhashable ↔ ∃ cause, of? v = .error cause :=
  ⟨error_of_unhashable, fun ⟨_, failed⟩ => (unhashable_of_error failed).1⟩

instance (v : Value) : Decidable v.Unhashable :=
  match found : of? v with
  | .ok slot => .isFalse fun without => by
    obtain ⟨cause, failed⟩ := error_of_unhashable without
    rw [found] at failed
    cases failed
  | .error _ => .isTrue (unhashable_of_error found).1

end Slot

/-! ### Slots of numbers -/

namespace Number

/-- The slot of a number. -/
def slot : Number → Slot
  | int n => .int n
  | float x => Slot.ofDouble x

/-- The slot of a value that is a number. -/
theorem of?_slot {v : Value} {a : Number} (number : Number.of? v = some a) :
    Slot.of? v = .ok a.slot := by
  cases v <;> cases number <;> rfl

/-- The word that a number equals, if there is one. -/
def word? : Number → Option Integer
  | int n => some n
  | float x => x.toInteger?

theorem word?_eq_some_iff {a : Number} {n : Integer} :
    a.word? = some n ↔ a.isNan = false ∧ a.signedUnits = n.toInt * Double.oneUnits := by
  cases a with
  | int m =>
    have positive : (Double.oneUnits : Int) ≠ 0 :=
      Int.natCast_ne_zero.mpr (Nat.ne_of_gt Double.oneUnits_pos)
    rw [word?, Option.some.injEq, signedUnits, Int.mul_eq_mul_right_iff positive, Int64.toInt_inj]
    exact (and_iff_right rfl).symm
  | float x => exact Double.toInteger?_eq_some_iff

/-- A number that equals a word has the slot of that word. -/
theorem slot_of_word? {a : Number} {n : Integer} (word : a.word? = some n) : a.slot = .int n := by
  cases a with
  | int m =>
    cases word
    rfl
  | float x =>
    rw [word?] at word
    rw [slot, Slot.ofDouble, word]

/-- A number that equals no word is a double, and has the slot of its bits. -/
theorem slot_of_word?_eq_none {a : Number} (word : a.word? = none) :
    ∃ x, a = float x ∧ a.slot = .float x := by
  cases a with
  | int m => cases word
  | float x =>
    rw [word?] at word
    refine ⟨x, rfl, ?_⟩
    rw [slot, Slot.ofDouble, word]

/-- **Two numbers have one slot exactly when they are numerically equal.** -/
theorem slot_eq_iff {a b : Number} (first : a.isNan = false) (second : b.isNan = false) :
    a.slot = b.slot ↔ a.Same b := by
  have words : a.signedUnits = b.signedUnits → a.word? = b.word? := by
    intro same
    ext n
    rw [word?_eq_some_iff, word?_eq_some_iff, first, second, same]
  rw [Same, and_iff_right first, and_iff_right second]
  cases found : a.word? with
  | some n =>
    have value := (word?_eq_some_iff.mp found).2
    rw [slot_of_word? found]
    constructor
    · intro same
      cases other : b.word? with
      | some m =>
        rw [slot_of_word? other] at same
        cases same
        rw [value, (word?_eq_some_iff.mp other).2]
      | none =>
        obtain ⟨y, _, slot⟩ := slot_of_word?_eq_none other
        rw [slot] at same
        cases same
    · intro same
      rw [slot_of_word? ((words same).symm.trans found)]
  | none =>
    obtain ⟨x, rfl, slotX⟩ := slot_of_word?_eq_none found
    rw [slotX]
    constructor
    · intro same
      cases other : b.word? with
      | some m =>
        rw [slot_of_word? other] at same
        cases same
      | none =>
        obtain ⟨y, rfl, slotY⟩ := slot_of_word?_eq_none other
        rw [slotY] at same
        cases same
        rfl
    · intro same
      obtain ⟨y, rfl, slotY⟩ := slot_of_word?_eq_none ((words same).symm.trans found)
      -- zero equals a word, so the two doubles are no zeros and have the same bits
      have nonzero : x.signedUnits ≠ 0 := by
        intro zero
        have word : (Number.float x).word? = some 0 :=
          word?_eq_some_iff.mpr ⟨first, zero.trans (Int.zero_mul _).symm⟩
        rw [found] at word
        cases word
      rw [slotY, Double.eq_of_signedUnits same nonzero]

/-- A number that has the slot of a number other than NaN is no NaN either. -/
theorem not_nan_of_slot {a b : Number} (same : a.slot = b.slot) (number : a.isNan = false) :
    b.isNan = false := by
  cases other : b.word? with
  | some n => exact (word?_eq_some_iff.mp other).1
  | none =>
    obtain ⟨y, rfl, slotY⟩ := slot_of_word?_eq_none other
    cases found : a.word? with
    | some n =>
      rw [slot_of_word? found, slotY] at same
      cases same
    | none =>
      obtain ⟨x, rfl, slotX⟩ := slot_of_word?_eq_none found
      rw [slotX, slotY] at same
      cases same
      exact number

/-- It is enough that one of the numbers is no NaN. -/
theorem slot_eq_iff_of_left {a b : Number} (first : a.isNan = false) :
    a.slot = b.slot ↔ a.Same b :=
  ⟨fun same => (slot_eq_iff first (not_nan_of_slot same first)).mp same,
    fun same => (slot_eq_iff first same.2.1).mpr same⟩

end Number

namespace Slot

variable {s : Store}

/-- What a value with a given slot is. -/
theorem of?_inv {v : Value} {slot : Slot} (found : of? v = .ok slot) :
    match slot with
    | .null => ∃ id, v = .null id
    | .str text => ∃ id, v = .str id text
    | .tuple slots => ∃ id items, v = .tuple id items ∧ ofItems? items = .ok slots
    | slot => ∃ a, Number.of? v = some a ∧ a.slot = slot := by
  have number {a : Number} (same : a.slot = slot) :
      (∃ n, slot = .int n) ∨ ∃ x, slot = .float x := by
    rw [← same]
    cases word : a.word? with
    | some n => exact .inl ⟨n, Number.slot_of_word? word⟩
    | none =>
      obtain ⟨x, _, bits⟩ := Number.slot_of_word?_eq_none word
      exact .inr ⟨x, bits⟩
  cases v with
  | null id =>
    cases found
    exact ⟨id, rfl⟩
  | str id text =>
    cases found
    exact ⟨id, rfl⟩
  | tuple id items =>
    obtain ⟨slots, all, rfl⟩ := of?_tuple.mp found
    exact ⟨id, items, rfl, all⟩
  | bool id b =>
    cases found
    exact ⟨_, rfl, rfl⟩
  | int id n =>
    cases found
    exact ⟨_, rfl, rfl⟩
  | float id x =>
    have same : (Number.float x).slot = slot := Except.ok.inj found
    rcases number same with ⟨n, rfl⟩ | ⟨y, rfl⟩
    · exact ⟨_, rfl, same⟩
    · exact ⟨_, rfl, same⟩
  | list | dict | range | reversed | reversedRange | enumerate | zip => cases found

mutual

/-- **A key without NaN has one slot with another one exactly when they are equal.** -/
theorem slot_eq_iff_of_left {a b : Value} {x y : Slot} (first : of? a = .ok x)
    (second : of? b = .ok y) (freeA : s.NanFree a) :
    x = y ↔ s.equal a b = true := by
  rw [Store.equal_iff_matches]
  constructor
  · rintro rfl
    cases x with
    | null =>
      obtain ⟨i, rfl⟩ := of?_inv first
      obtain ⟨j, rfl⟩ := of?_inv second
      exact .null i j
    | str text =>
      obtain ⟨i, rfl⟩ := of?_inv first
      obtain ⟨j, rfl⟩ := of?_inv second
      exact .str i j text
    | int n =>
      obtain ⟨m, numberA, slotA⟩ := of?_inv first
      obtain ⟨k, numberB, slotB⟩ := of?_inv second
      exact .number numberA numberB ((Number.slot_eq_iff_of_left (freeA.number numberA)).mp
        (slotA.trans slotB.symm))
    | float z =>
      obtain ⟨m, numberA, slotA⟩ := of?_inv first
      obtain ⟨k, numberB, slotB⟩ := of?_inv second
      exact .number numberA numberB ((Number.slot_eq_iff_of_left (freeA.number numberA)).mp
        (slotA.trans slotB.symm))
    | tuple slots =>
      obtain ⟨i, as, rfl, slotsA⟩ := of?_inv first
      obtain ⟨j, bs, rfl, slotsB⟩ := of?_inv second
      exact .tuple i j ((slots_eq_iff_of_left slotsA slotsB freeA.elements).mp rfl)
  · intro agree
    cases agree with
    | @number _ _ m k numberA numberB same =>
      have slotA := Number.of?_slot numberA
      have slotB := Number.of?_slot numberB
      rw [first] at slotA
      rw [second] at slotB
      rw [Except.ok.inj slotA, Except.ok.inj slotB]
      exact (Number.slot_eq_iff same.1 same.2.1).mpr same
    | null i j =>
      cases first
      cases second
      rfl
    | str i j text =>
      cases first
      cases second
      rfl
    | @tuple i j as bs related =>
      obtain ⟨slotsA, allA, rfl⟩ := of?_tuple.mp first
      obtain ⟨slotsB, allB, rfl⟩ := of?_tuple.mp second
      exact congrArg Slot.tuple ((slots_eq_iff_of_left allA allB freeA.elements).mpr related)
    | sameList | list | sameDict | dict | range => cases first
    | lazy kind =>
      cases a <;> simp [Value.IsLazy, Value.type] at kind <;> cases first
termination_by sizeOf a

/-- Two tuples of keys have the same slots exactly when their items are equal. -/
theorem slots_eq_iff_of_left {as bs : List Value} {xs ys : List Slot}
    (first : ofItems? as = .ok xs) (second : ofItems? bs = .ok ys)
    (freeA : ∀ a ∈ as, s.NanFree a) :
    xs = ys ↔ List.Forall₂ (fun a b => s.equal a b = true) as bs := by
  match as, bs with
  | [], [] =>
    cases first
    cases second
    exact iff_of_true rfl .nil
  | [], b :: bs =>
    obtain ⟨y, ys, _, _, rfl⟩ := ofItems?_cons.mp second
    cases first
    exact iff_of_false (List.cons_ne_nil y ys).symm nofun
  | a :: as, [] =>
    obtain ⟨x, xs, _, _, rfl⟩ := ofItems?_cons.mp first
    cases second
    exact iff_of_false (List.cons_ne_nil x xs) nofun
  | a :: as, b :: bs =>
    obtain ⟨x, xs, headA, tailA, rfl⟩ := ofItems?_cons.mp first
    obtain ⟨y, ys, headB, tailB, rfl⟩ := ofItems?_cons.mp second
    have head := slot_eq_iff_of_left headA headB (freeA a List.mem_cons_self)
    have tail := slots_eq_iff_of_left tailA tailB fun v member => freeA v (.tail a member)
    rw [List.cons_eq_cons, List.forall₂_cons, head, tail]
termination_by sizeOf as

end

/-- **Two keys without NaN have one slot exactly when they are equal.** -/
theorem slot_eq_iff_equal {a b : Value} {x y : Slot} (first : of? a = .ok x)
    (second : of? b = .ok y) (freeA : s.NanFree a) (_freeB : s.NanFree b) :
    x = y ↔ s.equal a b = true :=
  slot_eq_iff_of_left first second freeA

end Slot

end CallConsole
