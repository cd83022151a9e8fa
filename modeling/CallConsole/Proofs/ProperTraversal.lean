/-
**Traversals of values with a trait.**

A cursor has a trait if the lists that it stands in and the objects that it holds have it. Cursors
of values with the trait have it, they keep it from step to step, and what they yield has it too. Of
proper values, what is ahead does not change while the store only grows:

* `Trait.ofCursor_of_opened`, `Trait.ofCursor_next`: where a cursor begins, and where a step leads;
* `Trait.OfCursor.items`, `Trait.OfItem.create`: what is ahead of a cursor, and the objects made of
  it;
* `Store.exists_cursor`: a proper value that can be traversed has a cursor;
* `Cursor.Proper.ahead_eq`, `Store.Proper.elements_eq`: growth changes nothing.
-/

import CallConsole.Proofs.Traits
import CallConsole.Proofs.Traversal

namespace CallConsole

/-! ### Cursors -/

namespace Trait

/-- **The lists that the cursor stands in**, and the objects that it holds, have the trait. -/
inductive OfCursor (trait : Trait) (s : Store) : Cursor → Prop
  | live {place : Nat} (index : Nat) : trait.has s (.list place) →
      OfCursor trait s (.live place index)
  | fixed {items : List Value} : trait.All s items → OfCursor trait s (.fixed items)
  | chars (text : List Char) : OfCursor trait s (.chars text)
  | forward (r : Range) (index : Nat) : OfCursor trait s (.forward r index)
  | backward (r : Range) (remaining : Nat) : OfCursor trait s (.backward r remaining)
  | numbered {source : Cursor} (index : Integer) : OfCursor trait s source →
      OfCursor trait s (.numbered source index)
  | rows {sources : List Cursor} : (∀ c ∈ sources, OfCursor trait s c) →
      OfCursor trait s (.rows sources)

variable {trait : Trait} {s s' : Store}

theorem OfCursor.lasts {c : Cursor} (held : trait.OfCursor s c) (more : s.Extends s') :
    trait.OfCursor s' c := by
  induction held with
  | live index has => exact .live index (trait.lasts has more)
  | fixed all => exact .fixed (all.lasts more)
  | chars text => exact .chars text
  | forward r index => exact .forward r index
  | backward r remaining => exact .backward r remaining
  | numbered index _ source => exact .numbered index source
  | rows _ each => exact .rows each

mutual

/-- **A cursor at the start of a value with the trait** has it, too. -/
theorem ofCursor_of_opened (sound : trait.Sound s) (v : Value) (has : trait.has s v) {c : Cursor}
    (opened : s.cursor v = .ok c) : trait.OfCursor s c := by
  cases v with
  | null | bool | int | float => cases opened
  | list place =>
    cases opened
    exact .live 0 has
  | dict place =>
    cases opened
    refine .fixed fun v member => ?_
    obtain ⟨e, there, rfl⟩ := List.mem_map.mp member
    exact (sound.contents place e there).1
  | str id text =>
    cases opened
    exact .chars text
  | tuple id items =>
    cases opened
    exact .fixed (trait.parts has)
  | range id r =>
    cases opened
    exact .forward r 0
  | reversed id items =>
    cases opened
    exact .fixed (trait.parts has)
  | reversedRange id r =>
    cases opened
    exact .backward r r.length
  | enumerate id source start =>
    obtain ⟨inner, within, rfl⟩ := Store.exists_of_cursor_enumerate opened
    have held := trait.parts has source List.mem_cons_self
    exact .numbered start (ofCursor_of_opened sound source held within)
  | zip id sources =>
    obtain ⟨inner, within, rfl⟩ := Store.exists_of_cursor_zip opened
    exact .rows (ofCursors_of_opened sound sources (trait.parts has) within)

theorem ofCursors_of_opened (sound : trait.Sound s) (vs : List Value) (all : trait.All s vs)
    {cs : List Cursor} (opened : s.cursors vs = .ok cs) : ∀ c ∈ cs, trait.OfCursor s c := by
  cases vs with
  | nil =>
    cases opened
    exact List.forall_mem_nil _
  | cons v rest =>
    obtain ⟨first, others, found, behind, rfl⟩ := Store.exists_of_cursors_cons opened
    obtain ⟨has, all⟩ := List.forall_mem_cons.mp all
    exact List.forall_mem_cons.mpr
      ⟨ofCursor_of_opened sound v has found, ofCursors_of_opened sound rest all behind⟩

end

mutual

/-- **A step leads from a cursor with the trait to another one.** -/
theorem ofCursor_next (c : Cursor) (held : trait.OfCursor s c) :
    trait.OfCursor s (c.next s).2 := by
  cases held with
  | @live place index has =>
    rw [Cursor.next]
    split
    · exact .live (index + 1) has
    · exact .live index has
  | @fixed items all =>
    cases items with
    | nil => exact .fixed all
    | cons v rest => exact .fixed (List.forall_mem_cons.mp all).2
  | chars text => cases text <;> exact .chars _
  | forward r index =>
    rw [Cursor.next]
    split <;> exact .forward r _
  | backward r remaining => cases remaining <;> exact .backward r _
  | @numbered source index inner =>
    have moved := ofCursor_next source inner
    rw [Cursor.next]
    split
    case h_1 item after stepped =>
      rw [stepped] at moved
      exact .numbered _ moved
    case h_2 after stepped =>
      rw [stepped] at moved
      exact .numbered _ moved
  | @rows sources each =>
    by_cases empty : sources = []
    · cases empty
      exact .rows each
    · have moved := ofCursor_nextAll sources each
      rw [Cursor.next_rows s empty]
      split
      case h_1 items after stepped =>
        rw [stepped] at moved
        exact .rows moved
      case h_2 after stepped =>
        rw [stepped] at moved
        exact .rows moved

theorem ofCursor_nextAll (cs : List Cursor) (each : ∀ c ∈ cs, trait.OfCursor s c) :
    ∀ c ∈ (Cursor.nextAll s cs).2, trait.OfCursor s c := by
  cases cs with
  | nil => exact each
  | cons c rest =>
    obtain ⟨first, others⟩ := List.forall_mem_cons.mp each
    have moved := ofCursor_next c first
    have behind := ofCursor_nextAll rest others
    rw [Cursor.nextAll]
    split
    case h_1 after stepped =>
      rw [stepped] at moved
      exact List.forall_mem_cons.mpr ⟨moved, others⟩
    case h_2 item after stepped =>
      rw [stepped] at moved
      split
      case h_1 items behind' stepped' =>
        rw [stepped'] at behind
        exact List.forall_mem_cons.mpr ⟨moved, behind⟩
      case h_2 behind' stepped' =>
        rw [stepped'] at behind
        exact List.forall_mem_cons.mpr ⟨moved, behind⟩

end

/-- A cursor with the trait that has moved has the trait. -/
theorem OfCursor.moved {c moved : Cursor} (held : trait.OfCursor s c) {item : Option Item}
    (stepped : c.next s = (item, moved)) : trait.OfCursor s moved := by
  have next := ofCursor_next c held
  rwa [stepped] at next

/-! ### Items -/

/-- The objects in the item have the trait. -/
inductive OfItem (trait : Trait) (s : Store) : Item → Prop
  | object {v : Value} : trait.has s v → OfItem trait s (.object v)
  | char (c : Char) : OfItem trait s (.char c)
  | int (n : Integer) : OfItem trait s (.int n)
  | numbered {item : Item} (index : Integer) : OfItem trait s item →
      OfItem trait s (.numbered index item)
  | row {items : List Item} : (∀ item ∈ items, OfItem trait s item) →
      OfItem trait s (.row items)

theorem OfItem.lasts {item : Item} (held : trait.OfItem s item) (more : s.Extends s') :
    trait.OfItem s' item := by
  induction held with
  | object has => exact .object (trait.lasts has more)
  | char c => exact .char c
  | int n => exact .int n
  | numbered index _ inner => exact .numbered index inner
  | row _ each => exact .row each

mutual

/-- **An item with the trait stands for an object with the trait.** -/
theorem OfItem.create {s : Store} (item : Item) (held : trait.OfItem s item)
    (sound : trait.Sound s) :
    trait.Growth s (item.create s).2 ∧ trait.has (item.create s).2 (item.create s).1 := by
  cases item with
  | object v =>
    cases held with
    | object has => exact ⟨.refl sound, has⟩
  | char c => exact ⟨.create sound _, trait.made (.str [c])⟩
  | int n => exact ⟨.create sound _, trait.made (.int n)⟩
  | numbered index item =>
    cases held with
    | numbered _ inner =>
      have number := Growth.create sound (.int · index)
      obtain ⟨growth, object⟩ := OfItem.create item (inner.lasts number.extends) number.sound
      have counted := trait.lasts (trait.made (.int index)) growth.extends
      refine ⟨(number.trans growth).trans (.create growth.sound _), trait.made (.tuple ?_)⟩
      exact List.forall_mem_cons.mpr ⟨counted, List.forall_mem_singleton.mpr object⟩
  | row items =>
    cases held with
    | row each =>
      obtain ⟨growth, objects⟩ := OfItem.createAll items each sound
      exact ⟨growth.trans (.create growth.sound _), trait.made (.tuple objects)⟩

theorem OfItem.createAll {s : Store} (items : List Item)
    (each : ∀ item ∈ items, trait.OfItem s item) (sound : trait.Sound s) :
    trait.Growth s (Item.createAll s items).2 ∧
      trait.All (Item.createAll s items).2 (Item.createAll s items).1 := by
  cases items with
  | nil => exact ⟨.refl sound, all_nil trait _⟩
  | cons item rest =>
    obtain ⟨first, others⟩ := List.forall_mem_cons.mp each
    obtain ⟨growth, object⟩ := OfItem.create item first sound
    obtain ⟨growth', objects⟩ := OfItem.createAll rest
      (fun item member => (others item member).lasts growth.extends) growth.sound
    exact ⟨growth.trans growth',
      List.forall_mem_cons.mpr ⟨trait.lasts object growth'.extends, objects⟩⟩

end

/-- **What is ahead of a cursor with the trait** has it. -/
theorem OfCursor.items {c : Cursor} (held : trait.OfCursor s c) (sound : trait.Sound s) :
    ∀ item ∈ c.ahead s, trait.OfItem s item := by
  induction held with
  | @live place index has =>
    intro item member
    obtain ⟨v, there, rfl⟩ := List.mem_map.mp member
    exact .object (sound.items place v (Array.mem_toList_iff.mp (List.mem_of_mem_drop there)))
  | fixed all =>
    intro item member
    obtain ⟨v, there, rfl⟩ := List.mem_map.mp member
    exact .object (all v there)
  | chars text =>
    intro item member
    obtain ⟨c, there, rfl⟩ := List.mem_map.mp member
    exact .char c
  | forward | backward =>
    intro item member
    obtain ⟨n, there, rfl⟩ := List.mem_map.mp member
    exact .int n
  | numbered index _ inner =>
    intro item member
    obtain ⟨k, inside, rfl⟩ := List.mem_mapIdx.mp member
    exact .numbered _ (inner _ (List.getElem_mem inside))
  | rows _ each =>
    intro item member
    obtain ⟨row, there, rfl⟩ := List.mem_map.mp member
    refine .row fun item within => ?_
    obtain ⟨items, among, found⟩ := exists_of_mem_rowsOf there within
    rw [Cursor.aheadAll_eq_map] at among
    obtain ⟨c, source, rfl⟩ := List.mem_map.mp among
    exact each c source item found

/-- What a cursor with the trait yields has it. -/
theorem OfCursor.item {c moved : Cursor} (held : trait.OfCursor s c) (sound : trait.Sound s)
    {item : Item} (stepped : c.next s = (some item, moved)) : trait.OfItem s item :=
  held.items sound item (Cursor.ahead_of_yields stepped ▸ List.mem_cons_self)

end Trait

/-! ### Proper values -/

variable {s s' : Store}

/-- The lists that the cursor stands in are there, and the objects that it holds are proper. -/
abbrev Cursor.Proper (s : Store) (c : Cursor) : Prop := Trait.proper.OfCursor s c

namespace Cursor

theorem Proper.mono {c : Cursor} (proper : c.Proper s) (covers : s.Covers s') : c.Proper s' := by
  induction proper with
  | live index inside => exact .live index (Store.Proper.mono inside covers)
  | fixed each => exact .fixed fun v member => Store.Proper.mono (each v member) covers
  | chars text => exact .chars text
  | forward r index => exact .forward r index
  | backward r remaining => exact .backward r remaining
  | numbered index _ source => exact .numbered index source
  | rows _ each => exact .rows each

/-- **What is ahead of a proper cursor stays there** while the store grows. -/
theorem Proper.ahead_eq {c : Cursor} (proper : c.Proper s) (grows : s.Grows s') :
    c.ahead s' = c.ahead s := by
  induction proper with
  | live index there =>
    cases there with
    | list inside => rw [ahead, ahead, grows.items_eq inside]
  | fixed | chars | forward | backward => rfl
  | numbered index _ source => rw [ahead, ahead, source]
  | rows _ each =>
    rw [ahead, ahead, aheadAll_eq_map, aheadAll_eq_map, List.map_congr_left each]

end Cursor

namespace Store

/-- **A proper value keeps its elements** while the store grows. -/
theorem Proper.elements_eq {v : Value} (proper : s.Proper v) (grows : s.Grows s') :
    s'.elements v = s.elements v := by
  induction proper with
  | list inside => rw [elements, elements, grows.items_eq inside]
  | dict inside => rw [elements, elements, grows.contents_eq inside]
  | null | bool | int | float | str | tuple | range | reversed | reversedRange => rfl
  | enumerate id start _ _ source => rw [elements, elements, source]
  | zip id _ _ each =>
    rw [elements, elements, elementsAll_eq_map, elementsAll_eq_map, List.map_congr_left each]

/-- Several values that can be traversed have cursors. -/
theorem exists_cursors {vs : List Value} (each : ∀ v ∈ vs, ∃ c, s.cursor v = .ok c) :
    ∃ cs, s.cursors vs = .ok cs := by
  induction vs with
  | nil => exact ⟨[], rfl⟩
  | cons v rest ih =>
    obtain ⟨⟨first, opened⟩, others⟩ := List.forall_mem_cons.mp each
    obtain ⟨cs, behind⟩ := ih others
    refine ⟨first :: cs, ?_⟩
    rw [cursors, opened, behind]
    rfl

/-- **A proper value that can be traversed has a cursor.** -/
theorem Proper.opens {v : Value} (proper : s.Proper v) (iterable : v.iterable = true) :
    ∃ c, s.cursor v = .ok c := by
  induction proper with
  | null | bool | int | float => cases iterable
  | str | list | dict | tuple | range | reversed | reversedRange => exact ⟨_, rfl⟩
  | enumerate id start _ traversed source =>
    obtain ⟨c, opened⟩ := source traversed
    exact ⟨.numbered c start, by rw [cursor, opened]; rfl⟩
  | zip id _ traversed each =>
    obtain ⟨cs, opened⟩ := exists_cursors fun v member => each v member (traversed v member)
    exact ⟨.rows cs, by rw [cursor, opened]; rfl⟩

/-- A proper value that can be traversed has a cursor, and a proper one. -/
theorem exists_cursor (sound : s.Sound) {v : Value} (proper : s.Proper v)
    (iterable : v.iterable = true) : ∃ c, s.cursor v = .ok c ∧ c.Proper s := by
  obtain ⟨c, opened⟩ := proper.opens iterable
  exact ⟨c, opened, Trait.ofCursor_of_opened sound v proper opened⟩

end Store

end CallConsole
