/-
**Traits of values.**

A trait is a property of values that is handed on. It lasts while the store goes on, an object has
it only together with what it holds, and whatever is made of values with the trait has it again. If
all that is in a store has a trait, then so has all that is ever made there:

* `Sound.create`, `Sound.createList`, `Sound.createDict`: making something leaves nothing without
  the trait in the store;
* `Trait.any`, `Trait.proper`: every value has the first of these traits, and proper values have
  the second one.
-/

import CallConsole.Proofs.Growth
import CallConsole.Proofs.Reachability

namespace CallConsole

/-! ### What a trait is -/

/-- The values that an unchanging object holds. -/
def Value.parts : Value → List Value
  | tuple _ items | reversed _ items => items
  | enumerate _ source _ => [source]
  | zip _ sources => sources
  | _ => []

/-- **The object with the number can be made** of values with the property, if what it numbers or
puts in rows can be traversed. -/
inductive Value.Made (has : Value → Prop) (id : Nat) : Value → Prop
  | null : Made has id (.null id)
  | bool (b : Bool) : Made has id (.bool id b)
  | int (n : Integer) : Made has id (.int id n)
  | float (x : Double) : Made has id (.float id x)
  | str (text : List Char) : Made has id (.str id text)
  | tuple {items : List Value} : (∀ v ∈ items, has v) → Made has id (.tuple id items)
  | range (r : Range) : Made has id (.range id r)
  | reversed {items : List Value} : (∀ v ∈ items, has v) → Made has id (.reversed id items)
  | reversedRange (r : Range) : Made has id (.reversedRange id r)
  | enumerate {source : Value} (start : Integer) : has source → source.iterable = true →
      Made has id (.enumerate id source start)
  | zip {sources : List Value} : (∀ v ∈ sources, has v) →
      (∀ v ∈ sources, v.iterable = true) → Made has id (.zip id sources)

namespace Value.Made

variable {has : Value → Prop} {id : Nat} {v : Value}

theorem identity (made : v.Made has id) : v.identity = .object id := by
  cases made <;> rfl

/-- What is made holds values with the property. -/
theorem parts (made : v.Made has id) : ∀ u ∈ v.parts, has u := by
  cases made with
  | tuple each | reversed each => exact each
  | zip each iterable => exact each
  | enumerate start source iterable => exact List.forall_mem_singleton.mpr source
  | null | bool | int | float | str | range | reversedRange => exact List.forall_mem_nil _

end Value.Made

/-- **A property of values that is handed on.** -/
structure Trait where
  has : Store → Value → Prop
  /-- It lasts. -/
  lasts {s s' : Store} {v : Value} : has s v → s.Extends s' → has s' v
  /-- An object has it together with what it holds. -/
  parts {s : Store} {v : Value} : has s v → ∀ u ∈ v.parts, has s u
  /-- What is made of values with the trait has it. -/
  made {s : Store} {make : Nat → Value} : (make s.next).Made (has s) s.next →
    has (s.create make).2 (make s.next)
  /-- The lists of the store have it. -/
  list {s : Store} {place : Nat} : place < s.lists.size → has s (.list place)
  /-- The dicts of the store have it. -/
  dict {s : Store} {place : Nat} : place < s.dicts.size → has s (.dict place)

namespace Trait

variable {trait : Trait} {s s' s'' : Store} {v : Value}

/-- The values have the trait. -/
def All (trait : Trait) (s : Store) (vs : List Value) : Prop := ∀ v ∈ vs, trait.has s v

/-- The keys and values of the dict have the trait. -/
def OfDict (trait : Trait) (s : Store) (d : Dict) : Prop :=
  ∀ e ∈ d.entries, trait.has s e.key ∧ trait.has s e.value

theorem All.lasts {vs : List Value} (all : trait.All s vs) (more : s.Extends s') :
    trait.All s' vs := fun v member => trait.lasts (all v member) more

theorem OfDict.lasts {d : Dict} (held : trait.OfDict s d) (more : s.Extends s') :
    trait.OfDict s' d :=
  fun e member => ⟨trait.lasts (held e member).1 more, trait.lasts (held e member).2 more⟩

theorem all_nil (trait : Trait) (s : Store) : trait.All s [] := List.forall_mem_nil _

theorem ofDict_empty (trait : Trait) (s : Store) : trait.OfDict s Dict.empty :=
  List.forall_mem_nil _

/-- What is inserted into a dict of keys and values with the trait has the trait. -/
theorem OfDict.put {d : Dict} (held : trait.OfDict s d) {e : Entry} (key : trait.has s e.key)
    (value : trait.has s e.value) : trait.OfDict s (d.put e) := by
  by_cases missing : d.entryAt? e.slot = none
  · rw [OfDict, Dict.entries_put_of_missing missing]
    intro other member
    rcases List.mem_append.mp member with old | new
    · exact held other old
    · cases List.mem_singleton.mp new
      exact ⟨key, value⟩
  · rw [OfDict, Dict.entries_put_of_present missing]
    intro other member
    obtain ⟨old, there, rfl⟩ := List.mem_map.mp member
    rw [Entry.key_replace]
    refine ⟨(held old there).1, ?_⟩
    unfold Entry.replace
    split
    · exact value
    · exact (held old there).2

theorem OfDict.insert {d d' : Dict} {k v : Value} {replaced : Option Value}
    (held : trait.OfDict s d) (key : trait.has s k) (value : trait.has s v)
    (inserted : d.insert k v = .ok replaced d') : trait.OfDict s d' := by
  unfold Dict.insert at inserted
  split at inserted <;> cases inserted
  exact held.put key value

/-! ### Stores of values with a trait -/

/-- **All that the store holds has the trait.** -/
structure Sound (trait : Trait) (s : Store) : Prop where
  items : ∀ place, ∀ v ∈ s.items place, trait.has s v
  contents : ∀ place, trait.OfDict s (s.contents place)

theorem Sound.empty (trait : Trait) : trait.Sound Store.empty :=
  ⟨fun _ _ member => absurd member (Array.not_mem_empty _),
    fun _ _ member => absurd member List.not_mem_nil⟩

/-- What an object with the trait holds, has the trait. -/
theorem has_of_holds (sound : trait.Sound s) (has : trait.has s v) {u : Value}
    (holds : s.Holds v u) : trait.has s u := by
  cases holds with
  | item member => exact sound.items _ u member
  | key member => exact (sound.contents _ _ member).1
  | value member => exact (sound.contents _ _ member).2
  | element member | reversed member | part member => exact trait.parts has u member
  | source => exact trait.parts has u List.mem_cons_self

/-- A store that holds nothing new without the trait is sound. -/
theorem Sound.lasts (sound : trait.Sound s) (more : s.Extends s')
    (items : ∀ place, ∀ v ∈ s'.items place, v ∈ s.items place ∨ trait.has s' v)
    (contents : ∀ place,
      s'.contents place = s.contents place ∨ trait.OfDict s' (s'.contents place)) :
    trait.Sound s' where
  items place v member := by
    rcases items place v member with old | new
    · exact trait.lasts (sound.items place v old) more
    · exact new
  contents place := by
    rcases contents place with old | new
    · rw [old]
      exact (sound.contents place).lasts more
    · exact new

theorem Sound.create (sound : trait.Sound s) (make : Nat → Value) :
    trait.Sound (s.create make).2 :=
  sound.lasts (Store.extends_create s make) (fun _ _ => .inl) (fun _ => .inl rfl)

theorem Sound.createList (sound : trait.Sound s) {items : List Value} (all : trait.All s items) :
    trait.Sound (s.createList items).2 := by
  have more := Store.extends_createList s items
  refine sound.lasts more (fun place v member => ?_) (fun _ => .inl rfl)
  rw [Store.items_createList] at member
  split at member
  · exact .inr (trait.lasts (all v (List.mem_toArray.mp member)) more)
  · exact .inl member

theorem Sound.createDict (sound : trait.Sound s) {d : Dict} (held : trait.OfDict s d) :
    trait.Sound (s.createDict d).2 := by
  have more := Store.extends_createDict s d
  refine sound.lasts more (fun _ _ => .inl) (fun place => ?_)
  rw [Store.contents_createDict]
  split
  · exact .inr (held.lasts more)
  · exact .inl rfl

/-- **The second store has grown from the first one**, and all that it holds has the trait. -/
structure Growth (trait : Trait) (before after : Store) : Prop where
  grows : before.Grows after
  next : before.next ≤ after.next
  sound : trait.Sound after

theorem Growth.extends (growth : trait.Growth s s') : s.Extends s' :=
  ⟨growth.grows.covers, growth.next⟩

theorem Growth.refl (sound : trait.Sound s) : trait.Growth s s :=
  ⟨.refl s, Nat.le_refl _, sound⟩

theorem Growth.trans (first : trait.Growth s s') (second : trait.Growth s' s'') :
    trait.Growth s s'' :=
  ⟨first.grows.trans second.grows, Nat.le_trans first.next second.next, second.sound⟩

theorem Growth.create (sound : trait.Sound s) (make : Nat → Value) :
    trait.Growth s (s.create make).2 :=
  ⟨Store.grows_create s make, Nat.le_succ _, sound.create make⟩

theorem Growth.createList (sound : trait.Sound s) {items : List Value}
    (all : trait.All s items) : trait.Growth s (s.createList items).2 :=
  ⟨Store.grows_createList s items, Nat.le_refl _, sound.createList all⟩

theorem Growth.createDict (sound : trait.Sound s) {d : Dict} (held : trait.OfDict s d) :
    trait.Growth s (s.createDict d).2 :=
  ⟨Store.grows_createDict s d, Nat.le_refl _, sound.createDict held⟩

/-- A new list has the trait. -/
theorem has_createList (trait : Trait) (s : Store) (items : List Value) :
    trait.has (s.createList items).2 (s.createList items).1 :=
  trait.list (Nat.lt_of_lt_of_eq (Nat.lt_succ_self _) (Array.size_push ..).symm)

/-- A new dict has the trait. -/
theorem has_createDict (trait : Trait) (s : Store) (d : Dict) :
    trait.has (s.createDict d).2 (s.createDict d).1 :=
  trait.dict (Nat.lt_of_lt_of_eq (Nat.lt_succ_self _) (Array.size_push ..).symm)

/-! ### Two traits -/

/-- The trait that every value has. -/
def any : Trait where
  has _ _ := True
  lasts _ _ := trivial
  parts _ _ _ := trivial
  made _ := trivial
  list _ := trivial
  dict _ := trivial

theorem any_all (s : Store) (vs : List Value) : any.All s vs := fun _ _ => trivial

theorem any_ofDict (s : Store) (d : Dict) : any.OfDict s d := fun _ _ => ⟨trivial, trivial⟩

theorem any_sound (s : Store) : any.Sound s := ⟨fun _ _ _ => trivial, fun _ => any_ofDict s _⟩

/-- What is made of proper values is proper. -/
theorem proper_of_made {id : Nat} (made : v.Made s.Proper id) : s.Proper v := by
  cases made with
  | null => exact .null id
  | bool b => exact .bool id b
  | int n => exact .int id n
  | float x => exact .float id x
  | str text => exact .str id text
  | tuple each => exact .tuple id each
  | range r => exact .range id r
  | reversed each => exact .reversed id each
  | reversedRange r => exact .reversedRange id r
  | enumerate start proper iterable => exact .enumerate id start proper iterable
  | zip each iterable => exact .zip id each iterable

/-- What a proper object holds is proper. -/
theorem proper_parts (proper : s.Proper v) : ∀ u ∈ v.parts, s.Proper u := by
  cases proper with
  | tuple id each | reversed id each => exact each
  | zip id each iterable => exact each
  | enumerate id start source iterable => exact List.forall_mem_singleton.mpr source
  | null | bool | int | float | str | list | dict | range | reversedRange =>
    exact List.forall_mem_nil _

/-- **Proper values** have a trait. -/
def proper : Trait where
  has := Store.Proper
  lasts has more := has.mono more.toCovers
  parts := proper_parts
  made made := (proper_of_made made).mono (Store.extends_create _ _).toCovers
  list := .list
  dict := .dict

end Trait

/-- All that the store holds is proper. -/
abbrev Store.Sound (s : Store) : Prop := Trait.proper.Sound s

end CallConsole
