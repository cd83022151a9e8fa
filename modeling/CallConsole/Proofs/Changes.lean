/-
**Changes of a store.**

A list or a dict changes in three ways: an item is appended or replaced, or a value is inserted
under a key. Nothing else in the store changes with it:

* `items_changeList`, `contents_replaceDict`: what every list and every dict holds after a change;
* `Changes.evolves`: no place is lost, no list becomes shorter, and every dict keeps its keys;
* `Changes.sound`: a change by values with a trait leaves nothing without the trait;
* `Action.unchanged_of_setItem`, `Action.unchanged_of_insert`: an assignment or insertion that fails
  has found out before it has changed anything.
-/

import CallConsole.Proofs.Sequencing
import CallConsole.Proofs.Traits
import CallConsole.Subscript

namespace CallConsole

/-! ### Changes -/

namespace Store

variable {trait : Trait} {s s' : Store}

/-- No place is lost, no list is shorter than before, and every dict has the keys that it had. -/
structure Evolves (before after : Store) : Prop where
  covers : before.Covers after
  longer : ∀ place, (before.items place).size ≤ (after.items place).size
  keys : ∀ (place : Nat) (slot : Slot) (e : Entry),
    (before.contents place).entryAt? slot = some e →
      ∃ e', (after.contents place).entryAt? slot = some e' ∧ e'.key = e.key

theorem Evolves.refl (s : Store) : s.Evolves s :=
  ⟨.refl s, fun _ => Nat.le_refl _, fun _ _ e found => ⟨e, found, rfl⟩⟩

theorem Evolves.trans {s'' : Store} (first : s.Evolves s') (second : s'.Evolves s'') :
    s.Evolves s'' where
  covers := first.covers.trans second.covers
  longer place := Nat.le_trans (first.longer place) (second.longer place)
  keys place slot e found := by
    obtain ⟨e', found', same⟩ := first.keys place slot e found
    obtain ⟨e'', found'', same'⟩ := second.keys place slot e' found'
    exact ⟨e'', found'', same'.trans same⟩

theorem Grows.evolves (grows : s.Grows s') : s.Evolves s' where
  covers := grows.covers
  keys place slot e found := by
    refine ⟨e, ?_, rfl⟩
    by_cases inside : place < s.dicts.size
    · rwa [grows.contents_eq inside]
    · rw [contents, Array.getElem?_eq_none (Nat.le_of_not_lt inside)] at found
      cases found
  longer place := by
    by_cases inside : place < s.lists.size
    · exact Nat.le_of_eq (congrArg Array.size (grows.items_eq inside)).symm
    · rw [items, Array.getElem?_eq_none (Nat.le_of_not_lt inside)]
      exact Nat.zero_le _

/-- **One list or one dict has changed**: an item was appended or replaced, or a value was inserted
under a key. -/
inductive Changes (trait : Trait) (s : Store) : Store → Prop
  | nothing : Changes trait s s
  | append {place : Nat} {v : Value} : trait.has s v →
      Changes trait s (s.changeList place (·.push v))
  | assign {place slot : Nat} {v : Value} : trait.has s v →
      Changes trait s (s.changeList place (·.setIfInBounds slot v))
  | insert {place : Nat} {k v : Value} {replaced : Option Value} {d : Dict} : trait.has s k →
      trait.has s v → (s.contents place).insert k v = .ok replaced d →
      Changes trait s (s.replaceDict place d)

/-! ### What a change does -/

/-- A change at one index leaves the others as they are. -/
theorem getD_modify {α : Type} (xs : Array α) (index : Nat) (change : α → α) (other : Nat)
    (none : α) : ((xs.modify index change)[other]?).getD none =
      if other = index ∧ index < xs.size then change (xs[index]?.getD none)
      else xs[other]?.getD none := by
  rw [Array.getElem?_modify]
  by_cases same : index = other
  · subst same
    by_cases inside : index < xs.size
    · rw [if_pos rfl, if_pos ⟨rfl, inside⟩, Array.getElem?_eq_getElem inside]
      rfl
    · rw [if_pos rfl, if_neg fun both => inside both.2,
        Array.getElem?_eq_none (Nat.le_of_not_lt inside)]
      rfl
  · rw [if_neg same, if_neg fun both => same both.1.symm]

/-- The items of the changed list, and of every other one. -/
theorem items_changeList (s : Store) (place : Nat) (change : Array Value → Array Value)
    (other : Nat) : (s.changeList place change).items other =
      if other = place ∧ place < s.lists.size then change (s.items place) else s.items other :=
  getD_modify s.lists place change other #[]

theorem contents_replaceDict (s : Store) (place : Nat) (d : Dict) (other : Nat) :
    (s.replaceDict place d).contents other =
      if other = place ∧ place < s.dicts.size then d else s.contents other :=
  getD_modify s.dicts place (fun _ => d) other Dict.empty

/-- A dict may be replaced by itself. -/
theorem replaceDict_contents (s : Store) (place : Nat) :
    s.replaceDict place (s.contents place) = s := by
  have same : s.dicts.modify place (fun _ => s.contents place) = s.dicts := by
    refine Array.ext Array.size_modify fun index _ inside => ?_
    rw [Array.getElem_modify]
    split
    case isTrue here =>
      subst here
      rw [contents, Array.getElem?_eq_getElem inside]
      rfl
    case isFalse => rfl
  rw [replaceDict, same]

theorem extends_changeList (s : Store) (place : Nat) (change : Array Value → Array Value) :
    s.Extends (s.changeList place change) :=
  ⟨⟨Nat.le_of_eq Array.size_modify.symm, Nat.le_refl _⟩, Nat.le_refl _⟩

theorem extends_replaceDict (s : Store) (place : Nat) (d : Dict) :
    s.Extends (s.replaceDict place d) :=
  ⟨⟨Nat.le_refl _, Nat.le_of_eq Array.size_modify.symm⟩, Nat.le_refl _⟩

theorem Changes.extends (changes : s.Changes trait s') : s.Extends s' := by
  cases changes with
  | nothing => exact .refl s
  | append | assign => exact extends_changeList s _ _
  | insert => exact extends_replaceDict s _ _

/-- If a list does not become shorter by a change of it, no list does. -/
theorem size_le_changeList {place : Nat} {change : Array Value → Array Value}
    (longer : (s.items place).size ≤ (change (s.items place)).size) (other : Nat) :
    (s.items other).size ≤ ((s.changeList place change).items other).size := by
  rw [items_changeList]
  split
  case isTrue same => rwa [same.1]
  case isFalse => exact Nat.le_refl _

/-- A change never makes a list shorter, and never takes a key out of a dict. -/
theorem Changes.evolves (changes : s.Changes trait s') : s.Evolves s' where
  covers := changes.extends.toCovers
  longer other := by
    cases changes with
    | nothing | insert => exact Nat.le_refl _
    | append =>
      refine size_le_changeList ?_ other
      rw [Array.size_push]
      exact Nat.le_succ _
    | assign => exact size_le_changeList (Nat.le_of_eq Array.size_setIfInBounds.symm) other
  keys other slot e found := by
    cases changes with
    | nothing | append | assign => exact ⟨e, found, rfl⟩
    | insert _ _ inserted =>
      rw [contents_replaceDict]
      split
      case isTrue same =>
        rw [same.1] at found
        exact Dict.exists_entryAt?_insert inserted found
      case isFalse => exact ⟨e, found, rfl⟩

end Store

/-! ### Changes by values with a trait -/

namespace Trait

variable {trait : Trait} {s s' : Store}

/-- A list may take in values with the trait. -/
theorem Sound.changeList (sound : trait.Sound s) {place : Nat}
    {change : Array Value → Array Value}
    (taken : ∀ v ∈ change (s.items place), v ∈ s.items place ∨ trait.has s v) :
    trait.Sound (s.changeList place change) := by
  have more := s.extends_changeList place change
  refine sound.lasts more (fun other v member => ?_) fun _ => .inl rfl
  rw [Store.items_changeList] at member
  split at member
  case isTrue same =>
    rw [same.1]
    exact (taken v member).imp_right fun has => trait.lasts has more
  case isFalse => exact .inl member

/-- A dict may be replaced by one with the trait. -/
theorem Sound.replaceDict (sound : trait.Sound s) {d : Dict} (held : trait.OfDict s d)
    (place : Nat) : trait.Sound (s.replaceDict place d) := by
  have more := s.extends_replaceDict place d
  refine sound.lasts more (fun _ _ => .inl) fun other => ?_
  rw [Store.contents_replaceDict]
  split
  · exact .inr (held.lasts more)
  · exact .inl rfl

end Trait

/-- **A change by values with the trait leaves nothing without it in the store.** -/
theorem Store.Changes.sound {trait : Trait} {s s' : Store} (changes : s.Changes trait s')
    (sound : trait.Sound s) : trait.Sound s' := by
  cases changes with
  | nothing => exact sound
  | append has =>
    refine sound.changeList fun v member => (Array.mem_push.mp member).imp_right ?_
    rintro rfl
    exact has
  | assign has =>
    refine sound.changeList fun v member => ?_
    refine (Array.mem_or_eq_of_mem_setIfInBounds member).imp_right ?_
    rintro rfl
    exact has
  | insert key value inserted =>
    exact sound.replaceDict ((sound.contents _).insert key value inserted) _

/-! ### How operations end -/

namespace Action

variable {s s' : Store} {place : Nat} {key v : Value} {cause : Cause}

/-- A key with a slot is inserted into the dict at the place. -/
theorem insert_of_ok (s : Store) (place : Nat) {slot : Slot} (hashed : Slot.of? key = .ok slot)
    (v : Value) : Action.insert place key v s = .ok ((s.contents place).valueAt? slot)
      (s.replaceDict place ((s.contents place).put ⟨slot, key, v, hashed⟩)) := by
  rw [Action.insert, changeDict, (s.contents place).insert_of_ok hashed v]

/-- A key without a slot leaves the dict at the place as it is, and the whole store. -/
theorem insert_of_error (s : Store) (place : Nat) (failed : Slot.of? key = .error cause)
    (v : Value) : Action.insert place key v s = .error cause s := by
  rw [Action.insert, changeDict, (s.contents place).insert_of_error failed v]
  exact congrArg (EStateM.Result.error cause) (s.replaceDict_contents place)

/-- An assignment to a dict inserts a key with a slot. -/
theorem setItem_dict_of_ok (s : Store) (place : Nat) {slot : Slot}
    (hashed : Slot.of? key = .ok slot) (v : Value) : setItem (.dict place) key v s =
      .ok () (s.replaceDict place ((s.contents place).put ⟨slot, key, v, hashed⟩)) :=
  EStateM.bind_of_ok (insert_of_ok s place hashed v) _

theorem setItem_dict_of_error (s : Store) (place : Nat) (failed : Slot.of? key = .error cause)
    (v : Value) : setItem (.dict place) key v s = .error cause s :=
  EStateM.bind_of_error (insert_of_error s place failed v) _

/-- **An insertion that fails has not changed the dict**: the key has no slot. -/
theorem unchanged_of_insert (ran : Action.insert place key v s = .error cause s') : s' = s := by
  cases hashed : Slot.of? key with
  | error =>
    cases (insert_of_error s place hashed v).symm.trans ran
    rfl
  | ok slot => cases (insert_of_ok s place hashed v).symm.trans ran

/-- **An assignment that fails has not changed anything.** -/
theorem unchanged_of_setItem {on index v : Value}
    (ran : Action.setItem on index v s = .error cause s') : s' = s := by
  cases on with
  | list place =>
    rcases EStateM.error_of_bind ran with failed | ⟨slot, between, _, failed⟩
    · exact (error_of_tryRead failed).2
    · cases failed
  | dict place =>
    rcases EStateM.error_of_bind ran with failed | ⟨replaced, between, _, failed⟩
    · exact unchanged_of_insert failed
    · cases failed
  | _ =>
    cases ran
    rfl

/-- To append fails only where there is no list. -/
theorem unchanged_of_append {on v : Value} (ran : Action.append on v s = .error cause s') :
    s' = s := by
  cases on with
  | list place => cases ran
  | _ =>
    cases ran
    rfl

end Action

end CallConsole
