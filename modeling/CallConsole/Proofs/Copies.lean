/-
**Copies of a value.**

An expression that is evaluated twice comes to two values, which hold different objects. They are
copies of one value: each is what the value is above the objects that were there before. Copies have
the same slot and the same text, wherever they are and whatever the stores have grown to; and they
are equal, except for what is compared by identity:

* `Store.items_copied`, `Store.contents_copied`: what a copy holds;
* `Specimen.Copied.repr_eq`: the text of a copy, also inside of other containers;
* `Specimen.Copied.similar`: two copies in one store are equal.
-/

import CallConsole.Proofs.Equality
import CallConsole.Proofs.Relocation
import CallConsole.Proofs.Traits

namespace CallConsole

/-! ### What copies hold -/

namespace Store

variable {base s t : Store} {v u : Value}

/-- A list that was put above other objects holds what it held, however the store has grown. -/
theorem items_copied (grows : (base.above s).Grows t) {place : Nat}
    (inside : place < s.lists.size) :
    t.items (base.lists.size + place) = (s.items place).map (Value.above base) := by
  rw [grows.items_eq ((lt_size_lists_above base s place).mpr inside), items_above]

/-- A dict that was put above other objects holds what it held, however the store has grown. -/
theorem contents_copied (grows : (base.above s).Grows t) {place : Nat}
    (inside : place < s.dicts.size) :
    t.contents (base.dicts.size + place) = (s.contents place).above base := by
  rw [grows.contents_eq ((lt_size_dicts_above base s place).mpr inside), contents_above]

/-- What a value holds, a copy of the value holds a copy of. -/
theorem Holds.copied (grows : (base.above s).Grows t) (proper : s.Proper v)
    (holds : s.Holds v u) : t.Holds (v.above base) (u.above base) := by
  cases holds with
  | item member =>
    cases proper with
    | list inside =>
      refine .item ?_
      rw [items_copied grows inside]
      exact Array.mem_map_of_mem member
  | @key place e member =>
    cases proper with
    | dict inside =>
      refine .key (e := e.above base) ?_
      rw [contents_copied grows inside]
      exact List.mem_map_of_mem member
  | @value place e member =>
    cases proper with
    | dict inside =>
      refine .value (e := e.above base) ?_
      rw [contents_copied grows inside]
      exact List.mem_map_of_mem member
  | element member =>
    rw [Value.above, Value.aboveAll_eq_map]
    exact .element (List.mem_map_of_mem member)
  | reversed member =>
    rw [Value.above, Value.aboveAll_eq_map]
    exact .reversed (List.mem_map_of_mem member)
  | source => exact .source
  | part member =>
    rw [Value.above, Value.aboveAll_eq_map]
    exact .part (List.mem_map_of_mem member)

/-! ### Texts -/

theorem mem_containers_iff {identity : Identity} : identity ∈ s.containers ↔
    (∃ place < s.lists.size, .list place = identity) ∨
      ∃ place < s.dicts.size, .dict place = identity := by
  simp [containers]

/-- Where no place is lost, no container is. -/
theorem Covers.mem_containers (covers : s.Covers t) {identity : Identity}
    (there : identity ∈ s.containers) : identity ∈ t.containers := by
  rcases mem_containers_iff.mp there with ⟨place, inside, rfl⟩ | ⟨place, inside, rfl⟩
  · exact list_mem_containers (Nat.lt_of_lt_of_le inside covers.lists)
  · exact dict_mem_containers (Nat.lt_of_lt_of_le inside covers.dicts)

/-- The containers of a store are containers above another one. -/
theorem above_mem_containers {identity : Identity} (there : identity ∈ s.containers) :
    identity.above base ∈ (base.above s).containers := by
  rcases mem_containers_iff.mp there with ⟨place, inside, rfl⟩ | ⟨place, inside, rfl⟩
  · exact list_mem_containers ((lt_size_lists_above base s place).mpr inside)
  · exact dict_mem_containers ((lt_size_dicts_above base s place).mpr inside)

/-- Of the containers of a store, the same ones are active as of their copies. -/
def ActiveAlike (base s : Store) (active copied : List Identity) : Prop :=
  ∀ identity ∈ s.containers, identity.above base ∈ copied ↔ identity ∈ active

theorem ActiveAlike.enter {active copied : List Identity} (alike : base.ActiveAlike s active copied)
    (identity : Identity) :
    base.ActiveAlike s (identity :: active) (identity.above base :: copied) := by
  intro other there
  rw [List.mem_cons, List.mem_cons, alike other there, (Identity.above_injective base).eq_iff]

mutual

/-- **A copy has the text of the value**, inside of the same containers. What other containers it is
inside of does not matter, since they cannot be met. -/
theorem reprInside_copied (grows : (base.above s).Grows t) (sound : s.Sound)
    {active copied : List Identity} (alike : base.ActiveAlike s active copied) (v : Value)
    (proper : s.Proper v) : t.reprInside copied (v.above base) = s.reprInside active v := by
  cases v with
  | null | int | float | str | range | reversed | reversedRange | enumerate | zip =>
    rw [Value.above, reprInside, reprInside]
  | bool id b => cases b <;> rw [Value.above, reprInside, reprInside]
  | list place =>
    rw [Value.above, reprInside, reprInside]
    have inside : place < s.lists.size := by
      cases proper
      assumption
    have same : .list (base.lists.size + place) ∈ copied ↔ .list place ∈ active :=
      alike (.list place) (list_mem_containers inside)
    by_cases met : .list place ∈ active
    · rw [if_pos met, if_pos (same.mpr met)]
    · have within : base.lists.size + place < t.lists.size :=
        Nat.lt_of_lt_of_le ((lt_size_lists_above base s place).mpr inside) grows.covers.lists
      rw [if_neg met, if_neg (mt same.mp met), dif_pos inside, dif_pos within,
        items_copied grows inside, Array.toList_map]
      rw [← reprItems_copied grows sound (alike.enter (.list place)) (s.items place).toList
        fun v member => sound.items place v (Array.mem_toList_iff.mp member)]
      rfl
  | dict place =>
    rw [Value.above, reprInside, reprInside]
    have inside : place < s.dicts.size := by
      cases proper
      assumption
    have same : .dict (base.dicts.size + place) ∈ copied ↔ .dict place ∈ active :=
      alike (.dict place) (dict_mem_containers inside)
    by_cases met : .dict place ∈ active
    · rw [if_pos met, if_pos (same.mpr met)]
    · have within : base.dicts.size + place < t.dicts.size :=
        Nat.lt_of_lt_of_le ((lt_size_dicts_above base s place).mpr inside) grows.covers.dicts
      rw [if_neg met, if_neg (mt same.mp met), dif_pos inside, dif_pos within,
        contents_copied grows inside]
      rw [← reprEntries_copied grows sound (alike.enter (.dict place)) (s.contents place).entries
        (sound.contents place)]
      rfl
  | tuple id items =>
    have parts : ∀ v ∈ items, s.Proper v := by
      cases proper
      assumption
    rw [Value.above, reprInside, reprInside, Value.aboveAll_eq_map, List.length_map,
      reprItems_copied grows sound alike items parts]
termination_by (outside s.containers active, sizeOf v)
decreasing_by
  · exact Prod.Lex.left _ _ (outside_cons_lt (list_mem_containers inside) met)
  · exact Prod.Lex.left _ _ (outside_cons_lt (dict_mem_containers inside) met)
  · subst_vars
    exact Prod.Lex.right _ (by simp +arith)

theorem reprItems_copied (grows : (base.above s).Grows t) (sound : s.Sound)
    {active copied : List Identity} (alike : base.ActiveAlike s active copied) (vs : List Value)
    (proper : ∀ v ∈ vs, s.Proper v) :
    t.reprItems copied (vs.map (Value.above base)) = s.reprItems active vs := by
  cases vs with
  | nil => rw [List.map_nil, reprItems, reprItems]
  | cons v rest =>
    obtain ⟨first, others⟩ := List.forall_mem_cons.mp proper
    rw [List.map_cons, reprItems, reprItems, reprInside_copied grows sound alike v first,
      reprItems_copied grows sound alike rest others]
termination_by (outside s.containers active, sizeOf vs)
decreasing_by
  all_goals
    subst_vars
    exact Prod.Lex.right _ (by simp +arith)

theorem reprEntries_copied (grows : (base.above s).Grows t) (sound : s.Sound)
    {active copied : List Identity} (alike : base.ActiveAlike s active copied)
    (entries : List Entry) (proper : ∀ e ∈ entries, s.Proper e.key ∧ s.Proper e.value) :
    t.reprEntries copied (entries.map (Entry.above base)) = s.reprEntries active entries := by
  cases entries with
  | nil => rw [List.map_nil, reprEntries, reprEntries]
  | cons e rest =>
    obtain ⟨⟨key, value⟩, others⟩ := List.forall_mem_cons.mp proper
    rw [List.map_cons, reprEntries, reprEntries, Entry.above,
      reprInside_copied grows sound alike e.key key,
      reprInside_copied grows sound alike e.value value,
      reprEntries_copied grows sound alike rest others]
termination_by (outside s.containers active, sizeOf entries)
decreasing_by
  all_goals
    subst_vars
    exact Prod.Lex.right _ (by cases e; simp +arith)

end

/-! ### What is compared by identity -/

/-- No reversed, numbered or zipped sequence can be found in the value. -/
def LazyFree (s : Store) (v : Value) : Prop := ∀ w, s.Reaches v w → ¬ w.IsLazy

theorem LazyFree.not_isLazy (free : s.LazyFree v) : ¬ v.IsLazy := free v .refl

/-- What a value without such sequences holds is without them. -/
theorem LazyFree.of_holds (free : s.LazyFree v) (holds : s.Holds v u) : s.LazyFree u := by
  intro w reached
  exact free w (reached.head holds)

end Store

/-! ### Copies -/

/-- **A value with all that can be found in it**, in a store of its own. -/
structure Specimen where
  store : Store
  value : Value
  sound : store.Sound
  proper : store.Proper value

namespace Specimen

variable {x : Specimen} {s t : Store} {v v' : Value}

/-- **The value is a copy of the specimen**: it is the specimen above other objects, in a store that
has only grown since. -/
def Copied (x : Specimen) (t : Store) (v : Value) : Prop :=
  ∃ base : Store, v = x.value.above base ∧ (base.above x.store).Grows t

/-- A copy stays one while the store grows. -/
theorem Copied.mono (copied : x.Copied s v) (grows : s.Grows t) : x.Copied t v := by
  obtain ⟨base, rfl, within⟩ := copied
  exact ⟨base, rfl, within.trans grows⟩

/-- **A copy has the same slot.** -/
theorem Copied.slot_eq (copied : x.Copied t v) : Slot.of? v = Slot.of? x.value := by
  obtain ⟨base, rfl, _⟩ := copied
  exact Slot.of?_above base x.value

/-- **A copy has the same text**, inside of no containers or of containers that are younger. -/
theorem Copied.repr_eq (copied : x.Copied s v) (grows : s.Grows t) {active : List Identity}
    (younger : ∀ identity ∈ active, identity ∉ s.containers) :
    t.reprInside active v = x.store.repr x.value := by
  obtain ⟨base, rfl, within⟩ := copied
  refine Store.reprInside_copied (within.trans grows) x.sound (fun identity there => ?_) x.value
    x.proper
  -- no container of the copy is active, as none of the specimen is
  refine iff_of_false (fun met => younger _ met ?_) List.not_mem_nil
  exact within.covers.mem_containers (Store.above_mem_containers there)

/-- **Two copies in one store are equal**, if there is no NaN in them and nothing that is compared
by identity. -/
theorem Copied.similar (copied : x.Copied t v) (copied' : x.Copied t v') (nanFree : t.NanFree v)
    (lazyFree : t.LazyFree v) : t.Similar v v' := by
  -- copies may hold themselves, so being copies of one value is the bisimulation
  refine ⟨fun a a' => ∃ x : Specimen, x.Copied t a ∧ x.Copied t a' ∧ t.NanFree a ∧ t.LazyFree a,
    ?_, x, copied, copied', nanFree, lazyFree⟩
  rintro _ _ ⟨⟨s, v, sound, proper⟩, ⟨base, rfl, grows⟩, ⟨base', rfl, grows'⟩, nanFree, lazyFree⟩
  have part {u : Value} (holds : s.Holds v u) : ∃ x : Specimen, x.Copied t (u.above base) ∧
      x.Copied t (u.above base') ∧ t.NanFree (u.above base) ∧ t.LazyFree (u.above base) := by
    have there := holds.copied grows proper
    exact ⟨⟨s, u, sound, Trait.has_of_holds sound proper holds⟩, ⟨base, rfl, grows⟩,
      ⟨base', rfl, grows'⟩, nanFree.of_holds there, lazyFree.of_holds there⟩
  have notLazy := lazyFree.not_isLazy
  cases v with
  | null => exact .null _ _
  | bool id b => exact .number rfl rfl (.refl rfl)
  | int id n => exact .number rfl rfl (.refl rfl)
  | float id f => exact .number rfl rfl (.refl (nanFree.number rfl))
  | str id text => exact .str _ _ text
  | range id r => exact .range _ _ rfl
  | tuple id items =>
    rw [Value.above, Value.above, Value.aboveAll_eq_map, Value.aboveAll_eq_map]
    refine .tuple _ _ ?_
    rw [List.forall₂_map_left_iff, List.forall₂_map_right_iff, List.forall₂_same]
    exact fun u member => part (.element member)
  | list place =>
    have inside : place < s.lists.size := by
      cases proper
      assumption
    refine .list ?_
    rw [Store.items_copied grows inside, Store.items_copied grows' inside, Array.toList_map,
      Array.toList_map, List.forall₂_map_left_iff, List.forall₂_map_right_iff, List.forall₂_same]
    exact fun u member => part (.item (Array.mem_toList_iff.mp member))
  | dict place =>
    have inside : place < s.dicts.size := by
      cases proper
      assumption
    refine .dict ?_
    rw [Store.contents_copied grows inside, Store.contents_copied grows' inside]
    refine ⟨by rw [Dict.length_above, Dict.length_above], fun e member => ?_⟩
    obtain ⟨original, there, rfl⟩ := List.mem_map.mp member
    exact ⟨original.above base', List.mem_map_of_mem there, rfl, part (.value there)⟩
  | reversed | reversedRange => exact absurd (.inl rfl) notLazy
  | enumerate => exact absurd (.inr (.inl rfl)) notLazy
  | zip => exact absurd (.inr (.inr rfl)) notLazy

end Specimen

end CallConsole
