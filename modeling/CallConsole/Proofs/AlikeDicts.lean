/-
**Dicts of copies.**

Pairs are put into a dict one after another, and it takes no more than the slots of the keys to know
what becomes of them. So of pairs of copies, dicts of copies are made:

* `Dict.insertAll`: pairs put into a dict, up to the first key without a slot;
* `DictAlike.put`, `DictAlike.insertAll`: dicts with alike entries stay alike;
* `Agree.of_alike`: such dicts have the same text, and are equal as far as equality is no matter of
  identity.
-/

import CallConsole.Proofs.Copies

namespace CallConsole

/-! ### Pairs in a dict -/

namespace Dict

/-- **Puts pairs into a dict**, one after another, up to the first key without a slot. -/
def insertAll (d : Dict) : List (Value × Value) → Except Cause Dict
  | [] => .ok d
  | (k, v) :: rest =>
    match d.insert k v with
    | .ok _ changed => changed.insertAll rest
    | .error cause _ => .error cause

theorem insertAll_cons_of_ok (d : Dict) {k v : Value} {rest : List (Value × Value)} {slot : Slot}
    (hashed : Slot.of? k = .ok slot) :
    d.insertAll ((k, v) :: rest) = (d.put ⟨slot, k, v, hashed⟩).insertAll rest := by
  rw [insertAll, insert_of_ok d hashed]

theorem insertAll_cons_of_error (d : Dict) {k v : Value} {rest : List (Value × Value)}
    {cause : Cause} (failed : Slot.of? k = .error cause) :
    d.insertAll ((k, v) :: rest) = .error cause := by
  rw [insertAll, insert_of_error d failed]

/-- **Pairs are put into a dict, or there is a first one whose key has no slot.** -/
theorem insertAll_cases (d : Dict) (pairs : List (Value × Value)) :
    (∃ d', d.insertAll pairs = .ok d' ∧ ∀ pair ∈ pairs, ∃ slot, Slot.of? pair.1 = .ok slot) ∨
    ∃ before k v behind cause d', pairs = before ++ (k, v) :: behind ∧
      d.insertAll before = .ok d' ∧ (∀ pair ∈ before, ∃ slot, Slot.of? pair.1 = .ok slot) ∧
      Slot.of? k = .error cause ∧ d.insertAll pairs = .error cause := by
  induction pairs generalizing d with
  | nil => exact .inl ⟨d, rfl, List.forall_mem_nil _⟩
  | cons pair rest ih =>
    obtain ⟨k, v⟩ := pair
    cases hashed : Slot.of? k with
    | error cause =>
      exact .inr ⟨[], k, v, rest, cause, d, rfl, rfl, List.forall_mem_nil _, hashed,
        insertAll_cons_of_error d hashed⟩
    | ok slot =>
      rw [insertAll_cons_of_ok d hashed]
      rcases ih (d.put ⟨slot, k, v, hashed⟩) with
        ⟨d', all, each⟩ | ⟨before, k', v', behind, cause, d', rfl, some, each, failed, all⟩
      · exact .inl ⟨d', all, List.forall_mem_cons.mpr ⟨⟨slot, hashed⟩, each⟩⟩
      · refine .inr ⟨(k, v) :: before, k', v', behind, cause, d', rfl, ?_,
          List.forall_mem_cons.mpr ⟨⟨slot, hashed⟩, each⟩, failed, all⟩
        rw [insertAll_cons_of_ok d hashed]
        exact some

end Dict

/-! ### Dicts of copies -/

/-- The two values are copies of one value. -/
def Alike (s s' : Store) (v v' : Value) : Prop :=
  ∃ x : Specimen, x.Copied s v ∧ x.Copied s' v'

theorem Alike.slot_eq {s s' : Store} {v v' : Value} (alike : Alike s s' v v') :
    Slot.of? v = Slot.of? v' := by
  obtain ⟨x, copied, copied'⟩ := alike
  rw [copied.slot_eq, copied'.slot_eq]

/-- The two entries have the same slot, and copies for keys and values. -/
structure EntryAlike (s s' : Store) (e e' : Entry) : Prop where
  slot : e.slot = e'.slot
  key : Alike s s' e.key e'.key
  value : Alike s s' e.value e'.value

/-- **The two dicts have such entries in the same order.** -/
def DictAlike (s s' : Store) (d d' : Dict) : Prop :=
  List.Forall₂ (EntryAlike s s') d.entries d'.entries

/-- The two pairs are pairs of copies. -/
def PairAlike (s s' : Store) (pair pair' : Value × Value) : Prop :=
  Alike s s' pair.1 pair'.1 ∧ Alike s s' pair.2 pair'.2

namespace DictAlike

variable {s s' : Store} {d d' : Dict}

theorem slots_eq (alike : DictAlike s s' d d') :
    d.entries.map Entry.slot = d'.entries.map Entry.slot := by
  rw [← List.forall₂_eq_eq_eq, List.forall₂_map_left_iff, List.forall₂_map_right_iff]
  exact alike.imp fun _ _ entry => entry.slot

theorem missing_iff (alike : DictAlike s s' d d') (slot : Slot) :
    d.entryAt? slot = none ↔ d'.entryAt? slot = none := by
  have slots := alike.slots_eq
  constructor
  · intro missing
    exact Dict.entryAt?_eq_none_of_not_mem (slots ▸ Dict.not_mem_of_entryAt?_eq_none missing)
  · intro missing
    exact Dict.entryAt?_eq_none_of_not_mem (slots ▸ Dict.not_mem_of_entryAt?_eq_none missing)

/-- **Writing such entries keeps dicts alike.** -/
theorem put (alike : DictAlike s s' d d') {e e' : Entry} (entry : EntryAlike s s' e e') :
    DictAlike s s' (d.put e) (d'.put e') := by
  have missing_iff := alike.missing_iff e.slot
  rw [entry.slot] at missing_iff
  rw [DictAlike]
  -- a new slot goes to the end of both dicts, a known one gets its value where it is
  by_cases missing : d.entryAt? e.slot = none
  · have missing' : d'.entryAt? e'.slot = none := missing_iff.mp (entry.slot ▸ missing)
    rw [Dict.entries_put_of_missing missing, Dict.entries_put_of_missing missing']
    exact List.rel_append alike (.cons entry .nil)
  · have present' : d'.entryAt? e'.slot ≠ none :=
      fun missing' => missing (entry.slot ▸ missing_iff.mpr missing')
    rw [Dict.entries_put_of_present missing, Dict.entries_put_of_present present',
      List.forall₂_map_left_iff, List.forall₂_map_right_iff]
    refine alike.imp fun old old' same => ?_
    by_cases hit : old.slot = e.slot
    · have hit' : old'.slot = e'.slot := same.slot.symm.trans (hit.trans entry.slot)
      rw [Entry.replace, Entry.replace, if_pos hit, if_pos hit']
      exact ⟨same.slot, same.key, entry.value⟩
    · have miss : old'.slot ≠ e'.slot :=
        fun hit' => hit (same.slot.trans (hit'.trans entry.slot.symm))
      rw [Entry.replace, Entry.replace, if_neg hit, if_neg miss]
      exact same

/-- **Of pairs of copies, dicts of copies are made**, or none in the same way. -/
theorem insertAll {pairs pairs' : List (Value × Value)}
    (each : List.Forall₂ (PairAlike s s') pairs pairs') (alike : DictAlike s s' d d') :
    (∃ made made', d.insertAll pairs = .ok made ∧ d'.insertAll pairs' = .ok made' ∧
      DictAlike s s' made made') ∨
    ∃ cause, d.insertAll pairs = .error cause ∧ d'.insertAll pairs' = .error cause := by
  induction each generalizing d d' with
  | nil => exact .inl ⟨d, d', rfl, rfl, alike⟩
  | @cons pair pair' rest rest' first _ ih =>
    obtain ⟨k, v⟩ := pair
    obtain ⟨k', v'⟩ := pair'
    obtain ⟨key, value⟩ := first
    cases hashed : Slot.of? k with
    | error cause =>
      have hashed' := key.slot_eq.symm.trans hashed
      exact .inr ⟨cause, Dict.insertAll_cons_of_error d hashed,
        Dict.insertAll_cons_of_error d' hashed'⟩
    | ok slot =>
      have hashed' := key.slot_eq.symm.trans hashed
      rw [Dict.insertAll_cons_of_ok d hashed, Dict.insertAll_cons_of_ok d' hashed']
      exact ih (alike.put ⟨rfl, key, value⟩)

theorem empty : DictAlike s s' Dict.empty Dict.empty := .nil

theorem insertAll_of_ok {pairs pairs' : List (Value × Value)} {made : Dict}
    (each : List.Forall₂ (PairAlike s s') pairs pairs')
    (all : Dict.empty.insertAll pairs = .ok made) :
    ∃ made', Dict.empty.insertAll pairs' = .ok made' ∧ DictAlike s s' made made' := by
  rcases insertAll each empty with ⟨_, made', all', done, alike⟩ | ⟨cause, failed, _⟩
  · cases all.symm.trans all'
    exact ⟨made', done, alike⟩
  · cases all.symm.trans failed

theorem insertAll_of_error {pairs pairs' : List (Value × Value)} {cause : Cause}
    (each : List.Forall₂ (PairAlike s s') pairs pairs')
    (failed : Dict.empty.insertAll pairs = .error cause) :
    Dict.empty.insertAll pairs' = .error cause := by
  rcases insertAll each empty with ⟨made, _, all, _, _⟩ | ⟨_, failed', same⟩
  · cases failed.symm.trans all
  · cases failed.symm.trans failed'
    exact same

end DictAlike

/-! ### Dicts that agree -/

/-- **Two dicts agree**: they have the same slots in the same order, with copies of the same keys
and of the same values; they have the same text; and where both are at hand they are equal, unless a
NaN or something that is compared by identity can be found in them. -/
structure Agree (s s' : Store) (place place' : Nat) : Prop where
  entries : DictAlike s s' (s.contents place) (s'.contents place')
  repr_eq : s.repr (.dict place) = s'.repr (.dict place')
  equal : ∀ t : Store, s.Grows t → s'.Grows t → t.NanFree (.dict place) →
    t.LazyFree (.dict place) → t.equal (.dict place) (.dict place') = true

section Agree

variable {s s' t t' : Store} {d d' : Dict} {v v' : Value}

theorem Alike.mono (alike : Alike s s' v v') (grows : s.Grows t) (grows' : s'.Grows t') :
    Alike t t' v v' := by
  obtain ⟨x, copied, copied'⟩ := alike
  exact ⟨x, copied.mono grows, copied'.mono grows'⟩

/-- Copies have the same text, inside of younger containers too. -/
theorem Alike.repr_eq (alike : Alike s s' v v') (grows : s.Grows t) (grows' : s'.Grows t')
    {active active' : List Identity} (younger : ∀ identity ∈ active, identity ∉ s.containers)
    (younger' : ∀ identity ∈ active', identity ∉ s'.containers) :
    t.reprInside active v = t'.reprInside active' v' := by
  obtain ⟨x, copied, copied'⟩ := alike
  rw [copied.repr_eq grows younger, copied'.repr_eq grows' younger']

/-- A dict that is about to be made is younger than all containers. -/
theorem Store.younger_createDict (s : Store) :
    ∀ identity ∈ [Identity.dict s.dicts.size], identity ∉ s.containers := by
  rintro _ (_ | ⟨_, ⟨⟩⟩) there
  rcases Store.mem_containers_iff.mp there with ⟨_, _, other⟩ | ⟨place, inside, same⟩
  · cases other
  · cases same
    exact Nat.lt_irrefl _ inside

theorem DictAlike.reprEntries_eq {entries entries' : List Entry}
    (alike : List.Forall₂ (EntryAlike s s') entries entries') (grows : s.Grows t)
    (grows' : s'.Grows t') :
    t.reprEntries [.dict s.dicts.size] entries = t'.reprEntries [.dict s'.dicts.size] entries' := by
  induction alike with
  | nil => rw [Store.reprEntries, Store.reprEntries]
  | cons entry _ ih =>
    rw [Store.reprEntries, Store.reprEntries, ih,
      entry.key.repr_eq grows grows' s.younger_createDict s'.younger_createDict,
      entry.value.repr_eq grows grows' s.younger_createDict s'.younger_createDict]

/-- The text of a dict that has just been made. -/
theorem Store.repr_createDict (s : Store) (d : Dict) :
    (s.createDict d).2.repr (.dict s.dicts.size) = '{' :: commaSeparated
      ((s.createDict d).2.reprEntries [.dict s.dicts.size] d.entries) ++ ['}'] := by
  have inside : s.dicts.size < (s.createDict d).2.dicts.size := by
    rw [createDict, Array.size_push]
    exact Nat.lt_succ_self _
  rw [repr, reprInside, if_neg List.not_mem_nil, dif_pos inside, contents_createDict, if_pos rfl]

/-- **Dicts made of alike entries agree.** -/
theorem Agree.of_alike (alike : DictAlike s s' d d') :
    Agree (s.createDict d).2 (s'.createDict d').2 s.dicts.size s'.dicts.size where
  entries := by
    have grows := s.grows_createDict d
    have grows' := s'.grows_createDict d'
    rw [Store.contents_createDict, Store.contents_createDict, if_pos rfl, if_pos rfl]
    exact alike.imp fun _ _ entry =>
      ⟨entry.slot, entry.key.mono grows grows', entry.value.mono grows grows'⟩
  repr_eq := by
    rw [Store.repr_createDict, Store.repr_createDict,
      DictAlike.reprEntries_eq alike (s.grows_createDict d) (s'.grows_createDict d')]
  equal := by
    intro t grows grows' nanFree lazyFree
    have first := Store.contents_of_grows grows
    have second := Store.contents_of_grows grows'
    refine Store.equal_iff_matches.mpr (.dict ?_)
    rw [first, second]
    refine ⟨alike.length_eq, fun e member => ?_⟩
    obtain ⟨k, inside, rfl⟩ := List.getElem_of_mem member
    have inside' : k < d'.entries.length := alike.length_eq ▸ inside
    have entry : EntryAlike s s' d.entries[k] d'.entries[k] := alike.get inside inside'
    obtain ⟨x, copied, copied'⟩ := entry.value
    have holds : t.Holds (.dict s.dicts.size) d.entries[k].value := .value (first ▸ member)
    refine ⟨_, List.getElem_mem inside', entry.slot.symm, Store.equal_iff_similar.mpr ?_⟩
    exact Specimen.Copied.similar (copied.mono ((s.grows_createDict d).trans grows))
      (copied'.mono ((s'.grows_createDict d').trans grows')) (nanFree.of_holds holds)
      (lazyFree.of_holds holds)

end Agree

end CallConsole
