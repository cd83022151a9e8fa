/-
**A dict is an association list keyed by equality.**

A run of insertions begins with the empty dict; a key without a slot is refused and leaves the dict
as it is. Equality sorts the keys that were taken into classes:

* `keys_after`: the keys are the first of each class, in the order in which the classes came up;
* `valueAt?_eq_lastUnder?`: each class holds the value that was inserted last under one of its keys;
* `entryAt?_eq_find?`: a lookup finds the entry whose key equals the one asked for.
-/

import CallConsole.Proofs.Hashing
import Mathlib.Data.List.Find
import Mathlib.Data.List.Induction
import Mathlib.Data.Set.Card

namespace CallConsole

/-! ### Runs of insertions -/

/-- The key that an insertion is made under, with its value. -/
abbrev Insertion := Value × Value

namespace Dict

/-- Inserts, and answers with the value replaced or with the cause; a dict is left either way. -/
def attempt (d : Dict) (call : Insertion) : Except Cause (Option Value) × Dict :=
  match d.insert call.1 call.2 with
  | .ok before d' => (.ok before, d')
  | .error cause d' => (.error cause, d')

/-- The dict after a run of insertions. -/
def after (calls : List Insertion) : Dict := calls.foldl (fun d call => (d.attempt call).2) empty

/-- The insertions under keys that have a slot. -/
def accepted (calls : List Insertion) : List Insertion :=
  calls.filter fun call => ¬ call.1.Unhashable

theorem after_append (calls : List Insertion) (call : Insertion) :
    after (calls ++ [call]) = ((after calls).attempt call).2 := by
  rw [after, List.foldl_append, List.foldl_cons, List.foldl_nil]
  rfl

/-- A key with a slot is written to it, and the value found there comes back. -/
theorem attempt_of_ok (d : Dict) (call : Insertion) {slot : Slot}
    (hashed : Slot.of? call.1 = .ok slot) :
    d.attempt call = (.ok (d.valueAt? slot), d.put ⟨slot, call.1, call.2, hashed⟩) := by
  rw [attempt, d.insert_of_ok hashed]

/-- A key without a slot changes nothing. -/
theorem attempt_of_error (d : Dict) (call : Insertion) {cause : Cause}
    (failed : Slot.of? call.1 = .error cause) : d.attempt call = (.error cause, d) := by
  rw [attempt, d.insert_of_error failed]

theorem accepted_append_of_ok (calls : List Insertion) {call : Insertion} {slot : Slot}
    (hashed : Slot.of? call.1 = .ok slot) :
    accepted (calls ++ [call]) = accepted calls ++ [call] := by
  have takes : ¬ call.1.Unhashable := by
    rw [Slot.unhashable_iff, hashed]
    rintro ⟨cause, failed⟩
    cases failed
  have single : [call].filter (fun call => ¬ call.1.Unhashable) = [call] := by simp [takes]
  rw [accepted, List.filter_append, single]
  rfl

theorem accepted_append_of_error (calls : List Insertion) {call : Insertion} {cause : Cause}
    (failed : Slot.of? call.1 = .error cause) : accepted (calls ++ [call]) = accepted calls := by
  have refuses : call.1.Unhashable := Slot.unhashable_iff.mpr ⟨cause, failed⟩
  have none : [call].filter (fun call => ¬ call.1.Unhashable) = [] := by simp [refuses]
  rw [accepted, List.filter_append, none, List.append_nil]
  rfl

/-- A run is built up from the empty one by insertions that are taken and by insertions that are
refused. -/
theorem run_induction {motive : List Insertion → Prop} (empty : motive [])
    (taken : ∀ calls call slot, Slot.of? call.1 = .ok slot → motive calls →
      motive (calls ++ [call]))
    (refused : ∀ calls call cause, Slot.of? call.1 = .error cause → motive calls →
      motive (calls ++ [call])) (calls : List Insertion) : motive calls := by
  induction calls using List.reverseRecOn with
  | nil => exact empty
  | append_singleton calls call ih =>
    cases hashed : Slot.of? call.1 with
    | ok slot => exact taken calls call slot hashed ih
    | error cause => exact refused calls call cause hashed ih

/-- **A slot holds the value inserted last under a key with that slot.** -/
theorem valueAt?_after (calls : List Insertion) (slot : Slot) :
    (after calls).valueAt? slot =
      ((accepted calls).findRev? fun call => Slot.of? call.1 = .ok slot).map Prod.snd := by
  induction calls using run_induction with
  | empty => rfl
  | taken calls call slot' hashed ih =>
    rw [after_append, attempt_of_ok _ call hashed, accepted_append_of_ok calls hashed,
      valueAt?_put, ih, List.findRev?_eq_find?_reverse, List.findRev?_eq_find?_reverse,
      List.reverse_append, List.reverse_singleton, List.singleton_append, List.find?_cons, hashed]
    by_cases same : slot = slot'
    · simp [same]
    · have differs : slot' ≠ slot := fun equal => same equal.symm
      simp [same, differs]
  | refused calls call cause failed ih =>
    rw [after_append, attempt_of_error _ call failed, accepted_append_of_error calls failed]
    exact ih

/-- Every key was inserted. -/
theorem mem_of_mem_keys_after {calls : List Insertion} {key : Value}
    (member : key ∈ (after calls).keys) : key ∈ (accepted calls).map Prod.fst := by
  induction calls using run_induction with
  | empty => cases member
  | taken calls call slot hashed ih =>
    rw [after_append, attempt_of_ok _ call hashed, keys_put] at member
    rw [accepted_append_of_ok calls hashed, List.map_append, List.mem_append]
    split at member
    · exact (List.mem_append.mp member).imp ih id
    · exact .inl (ih member)
  | refused calls call cause failed ih =>
    rw [after_append, attempt_of_error _ call failed] at member
    rw [accepted_append_of_error calls failed]
    exact ih member

end Dict

/-! ### Classes of equal keys -/

namespace Store

open Dict

variable {s : Store}

/-- The first key of each class, in the order in which the classes came up. -/
def firstKeys (s : Store) (calls : List Insertion) : List Value :=
  ((accepted calls).map Prod.fst).eraseDupsBy fun later earlier => s.equal earlier later

/-- The value inserted last under a key that equals the given one. -/
def lastUnder? (s : Store) (calls : List Insertion) (key : Value) : Option Value :=
  ((accepted calls).findRev? fun call => s.equal call.1 key).map Prod.snd

/-- The inserted keys that equal the given one. -/
def keyClass (s : Store) (calls : List Insertion) (key : Value) : Set Value :=
  {other | other ∈ (accepted calls).map Prod.fst ∧ s.equal key other = true}

/-- The classes into which equality sorts the inserted keys. -/
def keyClasses (s : Store) (calls : List Insertion) : Set (Set Value) :=
  s.keyClass calls '' {key | key ∈ (accepted calls).map Prod.fst}

/-- The first ones of their classes among more elements: the last element counts if it is related to
none of the first ones before it. -/
theorem eraseDupsBy_append_singleton {α : Type} (related : α → α → Bool) (items : List α)
    (last : α) :
    (items ++ [last]).eraseDupsBy related =
      if (items.eraseDupsBy related).any (related last) then items.eraseDupsBy related
      else items.eraseDupsBy related ++ [last] := by
  have run (kept : List α) : List.eraseDupsBy.loop related (items ++ [last]) kept =
      if (List.eraseDupsBy.loop related items kept).any (related last)
      then List.eraseDupsBy.loop related items kept
      else List.eraseDupsBy.loop related items kept ++ [last] := by
    induction items generalizing kept with
    | nil =>
      rw [List.nil_append, List.eraseDupsBy.loop, List.eraseDupsBy.loop, List.any_reverse]
      cases kept.any (related last) with
      | true => rfl
      | false => simp [List.eraseDupsBy.loop]
    | cons item rest ih =>
      rw [List.cons_append, List.eraseDupsBy.loop, List.eraseDupsBy.loop]
      cases kept.any (related item) with
      | true => exact ih kept
      | false => exact ih (item :: kept)
  exact run []

/-- A key begins a new class if it equals no first key so far. -/
theorem firstKeys_append_of_ok (calls : List Insertion) {call : Insertion} {slot : Slot}
    (hashed : Slot.of? call.1 = .ok slot) :
    s.firstKeys (calls ++ [call]) =
      if (s.firstKeys calls).any fun other => s.equal other call.1 then s.firstKeys calls
      else s.firstKeys calls ++ [call.1] := by
  rw [firstKeys, accepted_append_of_ok calls hashed, List.map_append, List.map_singleton,
    eraseDupsBy_append_singleton]
  rfl

/-- A key that is not unhashable has a slot. -/
theorem slot_of_hashable {key : Value} (hashable : ¬ key.Unhashable) :
    ∃ slot, Slot.of? key = .ok slot := by
  cases found : Slot.of? key with
  | ok slot => exact ⟨slot, rfl⟩
  | error cause => exact absurd (Slot.unhashable_iff.mpr ⟨cause, found⟩) hashable

/-- Inserted keys have slots. -/
theorem slot_of_mem_accepted {calls : List Insertion} {key : Value}
    (member : key ∈ (accepted calls).map Prod.fst) : ∃ slot, Slot.of? key = .ok slot := by
  obtain ⟨call, inside, rfl⟩ := List.mem_map.mp member
  exact slot_of_hashable (of_decide_eq_true (List.mem_filter.mp inside).2)

/-- **A lookup finds the entry whose key equals the one asked for.** -/
theorem entryAt?_eq_find? {d : Dict} {key : Value} {slot : Slot} (hashed : Slot.of? key = .ok slot)
    (free : s.NanFree key) (keys : ∀ other ∈ d.keys, s.NanFree other) :
    d.entryAt? slot = d.entries.find? fun e => s.equal e.key key := by
  apply List.find?_congr
  intro e member
  rw [Bool.eq_iff_iff, decide_eq_true_eq]
  exact Slot.slot_eq_iff_equal e.hashed hashed (keys e.key (List.mem_map_of_mem member)) free

/-- **The value of a slot is the one inserted last under an equal key.** -/
theorem valueAt?_eq_lastUnder? {calls : List Insertion}
    (free : ∀ call ∈ accepted calls, s.NanFree call.1) {key : Value} {slot : Slot}
    (hashed : Slot.of? key = .ok slot) (freeKey : s.NanFree key) :
    (after calls).valueAt? slot = s.lastUnder? calls key := by
  rw [valueAt?_after, lastUnder?, List.findRev?_eq_find?_reverse, List.findRev?_eq_find?_reverse]
  refine congrArg (Option.map Prod.snd) (List.find?_congr fun call member => ?_)
  have inside := List.mem_reverse.mp member
  obtain ⟨slot', found⟩ := slot_of_mem_accepted (List.mem_map_of_mem inside)
  rw [Bool.eq_iff_iff, decide_eq_true_eq, found, Except.ok.injEq]
  exact Slot.slot_eq_iff_equal found hashed (free call inside) freeKey

/-- The keys of a dict without NaN among the insertions are without NaN. -/
theorem nanFree_of_mem_keys_after {calls : List Insertion}
    (free : ∀ call ∈ accepted calls, s.NanFree call.1) {key : Value}
    (member : key ∈ (after calls).keys) : s.NanFree key := by
  obtain ⟨call, inside, rfl⟩ := List.mem_map.mp (mem_of_mem_keys_after member)
  exact free call inside

/-- **The keys are the first of each class, in the order in which the classes came up.** -/
theorem keys_after {calls : List Insertion} (free : ∀ call ∈ accepted calls, s.NanFree call.1) :
    (after calls).keys = s.firstKeys calls := by
  induction calls using run_induction with
  | empty => rfl
  | taken calls call slot hashed ih =>
    rw [accepted_append_of_ok calls hashed] at free
    have before : ∀ other ∈ accepted calls, s.NanFree other.1 :=
      fun other member => free other (List.mem_append_left _ member)
    have last : s.NanFree call.1 := free call (by simp)
    have lookup := entryAt?_eq_find? hashed last fun other => nanFree_of_mem_keys_after before
    have missing : (after calls).entryAt? slot = none ↔
        ¬ ((s.firstKeys calls).any fun other => s.equal other call.1) = true := by
      rw [lookup, List.find?_eq_none, ← ih before, keys, List.any_map, List.any_eq_true]
      push Not
      rfl
    rw [after_append, attempt_of_ok _ call hashed, keys_put, ih before,
      firstKeys_append_of_ok calls hashed]
    by_cases known : ((s.firstKeys calls).any fun other => s.equal other call.1) = true
    · rw [if_neg (mt missing.mp (not_not_intro known)), if_pos known]
    · rw [if_pos (missing.mpr known), if_neg known]
  | refused calls call cause failed ih =>
    rw [accepted_append_of_error calls failed] at free
    rw [after_append, attempt_of_error _ call failed, ih free, firstKeys, firstKeys,
      accepted_append_of_error calls failed]

/-- No two keys are equal. -/
theorem keys_after_apart {calls : List Insertion}
    (free : ∀ call ∈ accepted calls, s.NanFree call.1) :
    (after calls).keys.Pairwise fun earlier later => s.equal earlier later = false := by
  rw [keys, List.pairwise_map]
  apply (List.pairwise_map.mp (after calls).distinct).imp_of_mem
  intro e f first second differ
  have known (e : Entry) (member : e ∈ (after calls).entries) : s.NanFree e.key :=
    nanFree_of_mem_keys_after free (List.mem_map_of_mem member)
  have same := Slot.slot_eq_iff_equal e.hashed f.hashed (known e first) (known f second)
  exact Bool.eq_false_iff.mpr (mt same.mpr differ)

/-- **Every inserted key equals one of the keys.** -/
theorem exists_key_equal {calls : List Insertion} (free : ∀ call ∈ accepted calls, s.NanFree call.1)
    {key : Value} (member : key ∈ (accepted calls).map Prod.fst) :
    ∃ first ∈ (after calls).keys, s.equal first key = true := by
  obtain ⟨slot, hashed⟩ := slot_of_mem_accepted member
  obtain ⟨call, inside, rfl⟩ := List.mem_map.mp member
  have found : (after calls).valueAt? slot ≠ none := by
    rw [valueAt?_after, List.findRev?_eq_find?_reverse, ne_eq, Option.map_eq_none_iff,
      List.find?_eq_none]
    exact fun none => none call (List.mem_reverse.mpr inside) (decide_eq_true hashed)
  rw [valueAt?, entryAt?_eq_find? hashed (free call inside) fun other =>
    nanFree_of_mem_keys_after free, ne_eq, Option.map_eq_none_iff] at found
  obtain ⟨e, looked⟩ := Option.ne_none_iff_exists'.mp found
  have equal := List.find?_some looked
  exact ⟨e.key, List.mem_map_of_mem (List.mem_of_find?_eq_some looked), equal⟩

/-- Keys of one class are equal, if the first of them is without NaN. -/
theorem equal_of_keyClass_eq {calls : List Insertion} {first second : Value}
    (member : second ∈ (accepted calls).map Prod.fst) (free : s.NanFree second)
    (same : s.keyClass calls first = s.keyClass calls second) : s.equal first second = true := by
  have inside : second ∈ s.keyClass calls second := ⟨member, equal_refl free⟩
  rw [← same] at inside
  exact inside.2

/-- Equal keys are of one class. -/
theorem keyClass_eq_of_equal (calls : List Insertion) {first second : Value}
    (equal : s.equal first second = true) : s.keyClass calls first = s.keyClass calls second := by
  ext other
  refine and_congr_right fun _ => ⟨fun before => ?_, fun after => ?_⟩
  · exact equal_trans (equal_symm equal) before
  · exact equal_trans equal after

/-- **There are as many entries as classes of equal keys.** -/
theorem length_after {calls : List Insertion} (free : ∀ call ∈ accepted calls, s.NanFree call.1) :
    (after calls).length = (s.keyClasses calls).ncard := by
  classical
  have classes : s.keyClasses calls = {c | c ∈ (after calls).keys.map (s.keyClass calls)} := by
    ext c
    rw [Set.mem_ofPred_eq, List.mem_map]
    constructor
    · rintro ⟨key, member, rfl⟩
      obtain ⟨first, kept, equal⟩ := exists_key_equal free member
      exact ⟨first, kept, keyClass_eq_of_equal calls equal⟩
    · rintro ⟨key, kept, rfl⟩
      exact ⟨key, mem_of_mem_keys_after kept, rfl⟩
  have distinct : ((after calls).keys.map (s.keyClass calls)).Nodup := by
    rw [List.Nodup, List.pairwise_map]
    apply (keys_after_apart free).imp_of_mem
    intro first second _ member apart same
    have equal := equal_of_keyClass_eq (mem_of_mem_keys_after member)
      (nanFree_of_mem_keys_after free member) same
    rw [apart] at equal
    cases equal
  rw [classes, ← List.coe_toFinset, Set.ncard_coe_finset, List.toFinset_card_of_nodup distinct,
    List.length_map, keys, List.length_map]
  rfl

/-! ### The association list -/

/-- The dict is the association list, keyed by equality, of the insertions. -/
structure KeyedByEquality (s : Store) (calls : List Insertion) (d : Dict) : Prop where
  keys : d.keys = s.firstKeys calls
  values : ∀ e ∈ d.entries, s.lastUnder? calls e.key = some e.value
  apart : d.keys.Pairwise fun earlier later => s.equal earlier later = false
  length : d.length = (s.keyClasses calls).ncard
  get : ∀ key, ¬ key.Unhashable → s.NanFree key →
    d.get? key = .ok ((d.entries.find? fun e => s.equal e.key key).map Entry.value)
  contains : ∀ key, ¬ key.Unhashable → s.NanFree key →
    d.contains key = .ok (d.entries.any fun e => s.equal e.key key)

/-- The value of an entry is that of its slot. -/
theorem valueAt?_of_mem {d : Dict} {e : Entry} (member : e ∈ d.entries) :
    d.valueAt? e.slot = some e.value := by
  rw [valueAt?, entryAt?_of_mem member, Option.map_some]

/-- The dict after a run is the association list of its insertions. -/
theorem keyedByEquality_after {calls : List Insertion}
    (free : ∀ call ∈ accepted calls, s.NanFree call.1) :
    s.KeyedByEquality calls (after calls) where
  keys := keys_after free
  values e member := by
    have known := nanFree_of_mem_keys_after free (List.mem_map_of_mem member)
    rw [← valueAt?_eq_lastUnder? free e.hashed known]
    exact valueAt?_of_mem member
  apart := keys_after_apart free
  length := length_after free
  get key hashable freeKey := by
    obtain ⟨slot, hashed⟩ := slot_of_hashable hashable
    rw [get?, hashed, Except.map, valueAt?,
      entryAt?_eq_find? hashed freeKey fun other => nanFree_of_mem_keys_after free]
  contains key hashable freeKey := by
    obtain ⟨slot, hashed⟩ := slot_of_hashable hashable
    rw [Dict.contains, hashed, Except.map,
      entryAt?_eq_find? hashed freeKey fun other => nanFree_of_mem_keys_after free]
    refine congrArg Except.ok (Bool.eq_iff_iff.mpr ?_)
    rw [List.find?_isSome, List.any_eq_true]

/-- **Dicts refine association lists keyed by equality.** After a run of insertions under keys
without NaN, the dict is the association list of the run. One more insertion under such a key
answers with the value that its class held and continues the run. A key is refused by all operations
exactly if it is unhashable: then the cause is the type, and the dict stays as it is. -/
theorem after_refines_association_list (s : Store) (calls : List Insertion)
    (free : ∀ call ∈ accepted calls, s.NanFree call.1) :
    s.KeyedByEquality calls (after calls) ∧
      (∀ key value, ¬ key.Unhashable → s.NanFree key →
        (after calls).attempt (key, value) =
          (.ok (s.lastUnder? calls key), after (calls ++ [(key, value)]))) ∧
      (∀ key value, key.Unhashable → ∃ cause : Cause, cause.kind = .typeMismatch ∧
        (after calls).attempt (key, value) = (.error cause, after calls) ∧
        (after calls).get? key = .error cause ∧ (after calls).contains key = .error cause) ∧
      ∀ key value, ¬ key.Unhashable →
        (∃ before, ((after calls).attempt (key, value)).1 = .ok before) ∧
        (∃ found, (after calls).get? key = .ok found) ∧
        ∃ there, (after calls).contains key = .ok there := by
  refine ⟨keyedByEquality_after free, ?_, ?_, ?_⟩
  · intro key value hashable freeKey
    obtain ⟨slot, hashed⟩ := slot_of_hashable hashable
    rw [after_append, attempt_of_ok (after calls) (key, value) hashed,
      valueAt?_eq_lastUnder? free hashed freeKey]
  · intro key value without
    obtain ⟨cause, failed⟩ := Slot.error_of_unhashable without
    obtain ⟨_, type, rfl⟩ := Slot.unhashable_of_error failed
    refine ⟨_, rfl, attempt_of_error (after calls) (key, value) failed, ?_, ?_⟩
    · rw [get?, failed, Except.map]
    · rw [Dict.contains, failed, Except.map]
  · intro key value hashable
    obtain ⟨slot, hashed⟩ := slot_of_hashable hashable
    refine ⟨⟨(after calls).valueAt? slot, ?_⟩, ⟨(after calls).valueAt? slot, ?_⟩,
      ⟨((after calls).entryAt? slot).isSome, ?_⟩⟩
    · rw [attempt_of_ok (after calls) (key, value) hashed]
    · rw [get?, hashed, Except.map]
    · rw [Dict.contains, hashed, Except.map]

/-- One and true are of one class, a list is refused, and a tuple makes a class of its own. -/
def mixedRun : List Insertion :=
  [(.int 0 1, .str 1 ['a']), (.bool 2 true, .str 3 ['b']), (.list 0, .null 4),
    (.tuple 5 [.int 6 1, .null 7], .str 8 ['c'])]

/-- The mixed run leaves two keys, and one holds what was inserted last under true. -/
theorem after_refines_association_list_mixedRun :
    (∀ call ∈ accepted mixedRun, Store.empty.NanFree call.1) ∧
      Store.empty.KeyedByEquality mixedRun (after mixedRun) ∧
      (after mixedRun).keys = [.int 0 1, .tuple 5 [.int 6 1, .null 7]] ∧
      (after mixedRun).get? (.int 9 1) = .ok (some (.str 3 ['b'])) := by
  have atom {v : Value} (number : ¬ v.IsNan) (nothing : ∀ w, ¬ Store.empty.Holds v w) :
      Store.empty.NanFree v := nanFree_of_forall number fun w holds => absurd holds (nothing w)
  have free : ∀ call ∈ accepted mixedRun, Store.empty.NanFree call.1 := by
    intro call member
    have inside := List.mem_of_mem_filter member
    simp only [mixedRun, List.mem_cons, List.not_mem_nil, or_false] at inside
    rcases inside with rfl | rfl | rfl | rfl
    · exact atom not_false (by rintro w ⟨⟩)
    · exact atom not_false (by rintro w ⟨⟩)
    · exact atom not_false (by rintro w ⟨⟩; simp_all [items, empty])
    · refine nanFree_of_forall not_false ?_
      rintro w (_ | _ | _ | element)
      rcases List.mem_pair.mp element with rfl | rfl
      · exact atom not_false (by rintro w ⟨⟩)
      · exact atom not_false (by rintro w ⟨⟩)
  exact ⟨free, (after_refines_association_list Store.empty mixedRun free).1, rfl, rfl⟩

end Store

end CallConsole
