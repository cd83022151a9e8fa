/-
**Dicts.**

A dict is a list of entries in the order in which their slots were first filled; no slot occurs
twice. Writing to a filled slot replaces the value and keeps the key:

* `valueAt?_put`: the slot written to holds the new value, every other slot what it held before;
* `keys_put`: the keys stay, and a key for a new slot goes to the end;
* `insert_of_ok`, `insert_of_error`: a key is inserted exactly if it has a slot, and otherwise the
  dict is left as it is.
-/

import CallConsole.Slot

namespace CallConsole

/-- A key with its slot, and the value found there. -/
structure Entry where
  slot : Slot
  key : Value
  value : Value
  hashed : Slot.of? key = .ok slot

/-- Entries in the order of first insertion, one for each slot. -/
structure Dict where
  entries : List Entry
  distinct : (entries.map Entry.slot).Nodup

namespace Entry

/-- The entry with another value, if its slot is the given one. -/
def replace (slot : Slot) (value : Value) (e : Entry) : Entry :=
  if e.slot = slot then { e with value := value } else e

/-- A replaced value leaves the slot as it is. -/
theorem slot_replace (slot : Slot) (value : Value) (e : Entry) :
    (e.replace slot value).slot = e.slot := by
  unfold replace
  split <;> rfl

/-- A replaced value leaves the key as it is. -/
theorem key_replace (slot : Slot) (value : Value) (e : Entry) :
    (e.replace slot value).key = e.key := by
  unfold replace
  split <;> rfl

/-- An entry is found by its slot, whatever values have been replaced. -/
theorem slot_comp_replace (slot wanted : Slot) (value : Value) :
    ((fun e : Entry => decide (e.slot = wanted)) ∘ replace slot value) =
      fun e => decide (e.slot = wanted) := by
  funext e
  simp [slot_replace]

end Entry

namespace Dict

/-- The dict without entries. -/
def empty : Dict := ⟨[], List.nodup_nil⟩

/-- The number of entries. -/
def length (d : Dict) : Nat := d.entries.length

/-- The keys in order. -/
def keys (d : Dict) : List Value := d.entries.map Entry.key

/-- The values in order. -/
def values (d : Dict) : List Value := d.entries.map Entry.value

/-- The entry of a slot. -/
def entryAt? (d : Dict) (slot : Slot) : Option Entry := d.entries.find? (·.slot = slot)

/-- The value of a slot. -/
def valueAt? (d : Dict) (slot : Slot) : Option Value := (d.entryAt? slot).map Entry.value

/-- Replacing a value leaves the slots as they are. -/
theorem map_slot_replace (slot : Slot) (value : Value) (entries : List Entry) :
    (entries.map (Entry.replace slot value)).map Entry.slot = entries.map Entry.slot := by
  rw [List.map_map]
  exact List.map_congr_left fun e _ => e.slot_replace slot value

/-- A slot without an entry is none of the slots. -/
theorem not_mem_of_entryAt?_eq_none {d : Dict} {slot : Slot} (missing : d.entryAt? slot = none) :
    slot ∉ d.entries.map Entry.slot := by
  intro member
  obtain ⟨e, present, rfl⟩ := List.mem_map.mp member
  have differs := List.find?_eq_none.mp missing e present
  simp at differs

/-- A new slot at the end of others occurs once. -/
theorem nodup_append {d : Dict} {e : Entry} (missing : d.entryAt? e.slot = none) :
    ((d.entries ++ [e]).map Entry.slot).Nodup := by
  rw [List.map_append, List.nodup_append]
  refine ⟨d.distinct, by simp, ?_⟩
  intro slot present other last equal
  cases List.mem_singleton.mp last
  exact not_mem_of_entryAt?_eq_none missing (equal ▸ present)

/-- Writes an entry: a new one goes to the end, a present one keeps its place and its key. -/
def put (d : Dict) (e : Entry) : Dict :=
  if missing : d.entryAt? e.slot = none then ⟨d.entries ++ [e], nodup_append missing⟩
  else ⟨d.entries.map (Entry.replace e.slot e.value), by
    rw [map_slot_replace]; exact d.distinct⟩

/-- **Inserts or replaces** the value of a key, in place: a failure has a dict after it, too. The
slot is found before anything is written. What comes back is the value replaced. -/
def insert (d : Dict) (key value : Value) : EStateM.Result Cause Dict (Option Value) :=
  match hashed : Slot.of? key with
  | .error cause => .error cause d
  | .ok slot => .ok (d.valueAt? slot) (d.put ⟨slot, key, value, hashed⟩)

/-- The value of a key, if there is an entry for it. -/
def get? (d : Dict) (key : Value) : Except Cause (Option Value) :=
  (Slot.of? key).map d.valueAt?

/-- There is an entry for the key. -/
def contains (d : Dict) (key : Value) : Except Cause Bool :=
  (Slot.of? key).map fun slot => (d.entryAt? slot).isSome

/-! ### What writing does -/

/-- A key with a slot is written to it, and the value found there comes back. -/
theorem insert_of_ok (d : Dict) {key : Value} {slot : Slot} (hashed : Slot.of? key = .ok slot)
    (value : Value) :
    d.insert key value = .ok (d.valueAt? slot) (d.put ⟨slot, key, value, hashed⟩) := by
  unfold insert
  split
  case h_1 cause failed =>
    rw [hashed] at failed
    cases failed
  case h_2 slot' found =>
    rw [hashed] at found
    cases found
    rfl

/-- A key without a slot is not inserted, and the dict stays as it is. -/
theorem insert_of_error (d : Dict) {key : Value} {cause : Cause}
    (failed : Slot.of? key = .error cause) (value : Value) :
    d.insert key value = .error cause d := by
  unfold insert
  split
  case h_1 cause' again =>
    rw [failed] at again
    cases again
    rfl
  case h_2 slot found =>
    rw [failed] at found
    cases found

/-- A slot that is none of the slots has no entry. -/
theorem entryAt?_eq_none_of_not_mem {d : Dict} {slot : Slot}
    (new : slot ∉ d.entries.map Entry.slot) : d.entryAt? slot = none := by
  refine List.find?_eq_none.mpr fun e member same => new ?_
  exact List.mem_map.mpr ⟨e, member, of_decide_eq_true same⟩

/-- A new entry goes to the end. -/
theorem entries_put_of_missing {d : Dict} {e : Entry} (missing : d.entryAt? e.slot = none) :
    (d.put e).entries = d.entries ++ [e] := by
  rw [put, dif_pos missing]

/-- A present entry takes the new value in its place. -/
theorem entries_put_of_present {d : Dict} {e : Entry} (present : d.entryAt? e.slot ≠ none) :
    (d.put e).entries = d.entries.map (Entry.replace e.slot e.value) := by
  rw [put, dif_neg present]

/-- **The keys stay where they are, and a key for a new slot goes to the end.** -/
theorem keys_put (d : Dict) (e : Entry) :
    (d.put e).keys = if d.entryAt? e.slot = none then d.keys ++ [e.key] else d.keys := by
  by_cases missing : d.entryAt? e.slot = none
  · rw [if_pos missing, keys, entries_put_of_missing missing, List.map_append]
    rfl
  · rw [if_neg missing, keys, entries_put_of_present missing, List.map_map]
    exact List.map_congr_left fun other _ => other.key_replace e.slot e.value

/-- **A slot that has a key goes on to have it.** -/
theorem exists_entryAt?_put {d : Dict} {slot : Slot} {e : Entry} (found : d.entryAt? slot = some e)
    (other : Entry) : ∃ e', (d.put other).entryAt? slot = some e' ∧ e'.key = e.key := by
  by_cases missing : d.entryAt? other.slot = none
  · refine ⟨e, ?_, rfl⟩
    rw [entryAt?, entries_put_of_missing missing, List.find?_append]
    rw [entryAt?] at found
    rw [found]
    rfl
  · refine ⟨e.replace other.slot other.value, ?_, e.key_replace _ _⟩
    rw [entryAt?] at found
    rw [entryAt?, entries_put_of_present missing, List.find?_map, Entry.slot_comp_replace, found]
    rfl

theorem exists_entryAt?_insert {d d' : Dict} {k v : Value} {replaced : Option Value}
    (inserted : d.insert k v = .ok replaced d') {slot : Slot} {e : Entry}
    (found : d.entryAt? slot = some e) : ∃ e', d'.entryAt? slot = some e' ∧ e'.key = e.key := by
  unfold insert at inserted
  split at inserted <;> cases inserted
  exact exists_entryAt?_put found _

/-- **The slot written to holds the new value, every other slot what it held before.** -/
theorem valueAt?_put (d : Dict) (e : Entry) (slot : Slot) :
    (d.put e).valueAt? slot = if slot = e.slot then some e.value else d.valueAt? slot := by
  by_cases missing : d.entryAt? e.slot = none
  · rw [valueAt?, entryAt?, entries_put_of_missing missing, List.find?_append]
    by_cases same : slot = e.slot
    · subst same
      rw [entryAt?] at missing
      simp [missing]
    · have differs : e.slot ≠ slot := fun equal => same equal.symm
      simp [valueAt?, entryAt?, same, differs]
  · rw [valueAt?, entryAt?, entries_put_of_present missing, List.find?_map]
    rw [Entry.slot_comp_replace]
    by_cases same : slot = e.slot
    · subst same
      obtain ⟨other, found⟩ := Option.ne_none_iff_exists'.mp missing
      rw [entryAt?] at found
      have place : other.slot = e.slot := by simpa using List.find?_some found
      simp [found, Entry.replace, place]
    · rw [if_neg same, valueAt?, entryAt?]
      cases looked : d.entries.find? fun other => decide (other.slot = slot) with
      | none => rfl
      | some other =>
        have place : other.slot = slot := by simpa using List.find?_some looked
        have differs : other.slot ≠ e.slot := fun equal => same (place.symm.trans equal)
        simp [Entry.replace, differs]

end Dict

end CallConsole
