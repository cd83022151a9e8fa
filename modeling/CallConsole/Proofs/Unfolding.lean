/-
**Trees of values.**

A value that holds itself nowhere can be written out in full, as a tree of what it holds. The tree
tells everything of the value but the places of its lists and dicts and the identities of its
unchanging objects, so two values are structurally identical exactly if they unfold to one tree:

* `Unfolds.unique`: a value unfolds to one tree at most;
* `Acyclic.acc`: every walk down from an acyclic value ends;
* `exists_unfolds`: an acyclic value of readable parts unfolds to a readable tree;
* `Unfolds.acyclic`: only acyclic values unfold.
-/

import CallConsole.Proofs.Reachability
import CallConsole.Render

namespace CallConsole

/-- What a value holds, written out in full. -/
inductive Tree where
  | null
  | bool (b : Bool)
  | int (n : Integer)
  | str (text : List Char)
  | list (items : List Tree)
  | dict (entries : List (Tree × Tree))
  | tuple (items : List Tree)
  | range (r : Range)

/-! ### Keys and texts in trees -/

namespace Tree

mutual

/-- The slot of a value that unfolds to the tree. -/
def slot? : Tree → Option Slot
  | .null => some .null
  | .bool b => some (.int (Integer.ofBool b))
  | .int n => some (.int n)
  | .str text => some (.str text)
  | .tuple ts => (slots? ts).map .tuple
  | .list _ | .dict _ | .range _ => none

/-- The slots of the items of a tuple. -/
def slots? : List Tree → Option (List Slot)
  | [] => some []
  | t :: ts =>
    match slot? t with
    | some slot => (slots? ts).map (slot :: ·)
    | none => none

end

/-- All keys have slots, and no slot occurs twice. -/
def DistinctKeys (entries : List (Tree × Tree)) : Prop :=
  ∃ slots : List Slot, entries.map (fun p => p.1.slot?) = slots.map some ∧ slots.Nodup

mutual

/-- The text of the tree can be read back: strings hold no control characters but those that escapes
are read for, and the keys of a dict are different. -/
def Readable : Tree → Prop
  | .str text => ∀ c ∈ text, Quoted.isControl c = true → c ∈ ['\n', '\r', '\t']
  | .list ts | .tuple ts => ReadableAll ts
  | .dict ts => ReadableEntries ts ∧ DistinctKeys ts
  | .null | .bool _ | .int _ | .range _ => True

/-- All of the trees can be read back. -/
def ReadableAll : List Tree → Prop
  | [] => True
  | t :: ts => Readable t ∧ ReadableAll ts

/-- All of the keys and values can be read back. -/
def ReadableEntries : List (Tree × Tree) → Prop
  | [] => True
  | (k, t) :: ts => Readable k ∧ Readable t ∧ ReadableEntries ts

end

theorem readable_of_mem {ts : List Tree} (readable : ReadableAll ts) {t : Tree} (member : t ∈ ts) :
    t.Readable := by
  induction ts with
  | nil => cases member
  | cons head tail ih =>
    rcases List.mem_cons.mp member with rfl | later
    · exact readable.1
    · exact ih readable.2 later

theorem readable_of_mem_entries {ts : List (Tree × Tree)} (readable : ReadableEntries ts)
    {p : Tree × Tree} (member : p ∈ ts) : p.1.Readable ∧ p.2.Readable := by
  induction ts with
  | nil => cases member
  | cons head tail ih =>
    rcases List.mem_cons.mp member with rfl | later
    · exact ⟨readable.1, readable.2.1⟩
    · exact ih readable.2.2 later

end Tree

/-! ### Unfolding -/

/-- The value is of a kind that is written the way it is read; of the control characters its text
holds only those that escapes are read for. -/
def Value.Plain : Value → Prop
  | .str _ text => ∀ c ∈ text, Quoted.isControl c = true → c ∈ ['\n', '\r', '\t']
  | .null _ | .bool .. | .int .. | .list _ | .dict _ | .tuple .. | .range .. => True
  | .float .. | .reversed .. | .reversedRange .. | .enumerate .. | .zip .. => False

namespace Store

mutual

/-- The value is the tree written out. -/
inductive Unfolds (s : Store) : Value → Tree → Prop
  | null (id : Nat) : Unfolds s (.null id) .null
  | bool (id : Nat) (b : Bool) : Unfolds s (.bool id b) (.bool b)
  | int (id : Nat) (n : Integer) : Unfolds s (.int id n) (.int n)
  | str (id : Nat) (text : List Char) : Unfolds s (.str id text) (.str text)
  | list {place : Nat} {ts : List Tree} :
      UnfoldsAll s (s.items place).toList ts → Unfolds s (.list place) (.list ts)
  | dict {place : Nat} {ts : List (Tree × Tree)} :
      UnfoldsEntries s (s.contents place).entries ts → Unfolds s (.dict place) (.dict ts)
  | tuple (id : Nat) {items : List Value} {ts : List Tree} :
      UnfoldsAll s items ts → Unfolds s (.tuple id items) (.tuple ts)
  | range (id : Nat) (r : Range) : Unfolds s (.range id r) (.range r)

/-- The values are the trees written out, one by one. -/
inductive UnfoldsAll (s : Store) : List Value → List Tree → Prop
  | nil : UnfoldsAll s [] []
  | cons {v : Value} {t : Tree} {vs : List Value} {ts : List Tree} :
      Unfolds s v t → UnfoldsAll s vs ts → UnfoldsAll s (v :: vs) (t :: ts)

/-- The keys and values of the entries are the trees written out, one by one. -/
inductive UnfoldsEntries (s : Store) : List Entry → List (Tree × Tree) → Prop
  | nil : UnfoldsEntries s [] []
  | cons {e : Entry} {k t : Tree} {es : List Entry} {ts : List (Tree × Tree)} :
      Unfolds s e.key k → Unfolds s e.value t → UnfoldsEntries s es ts →
      UnfoldsEntries s (e :: es) ((k, t) :: ts)

end

variable {s : Store}

/-! ### A value has one tree -/

mutual

/-- **A value unfolds to one tree at most.** -/
theorem Unfolds.unique {v : Value} {t t' : Tree} (first : s.Unfolds v t)
    (second : s.Unfolds v t') : t = t' := by
  cases first with
  | list all =>
    cases second with
    | list all' => rw [UnfoldsAll.unique all all']
  | dict all =>
    cases second with
    | dict all' => rw [UnfoldsEntries.unique all all']
  | tuple id all =>
    cases second with
    | tuple _ all' => rw [UnfoldsAll.unique all all']
  | _ =>
    cases second
    rfl

theorem UnfoldsAll.unique {vs : List Value} {ts ts' : List Tree} (first : s.UnfoldsAll vs ts)
    (second : s.UnfoldsAll vs ts') : ts = ts' := by
  cases first with
  | nil =>
    cases second
    rfl
  | cons head tail =>
    cases second with
    | cons head' tail' => rw [Unfolds.unique head head', UnfoldsAll.unique tail tail']

theorem UnfoldsEntries.unique {es : List Entry} {ts ts' : List (Tree × Tree)}
    (first : s.UnfoldsEntries es ts) (second : s.UnfoldsEntries es ts') : ts = ts' := by
  cases first with
  | nil =>
    cases second
    rfl
  | cons key value tail =>
    cases second with
    | cons key' value' tail' =>
      rw [Unfolds.unique key key', Unfolds.unique value value', UnfoldsEntries.unique tail tail']

end

/-! ### Acyclic values have one -/

variable {v w : Value} {t : Tree}

theorem exists_unfoldsAll {vs : List Value} (each : ∀ v ∈ vs, ∃ t, s.Unfolds v t) :
    ∃ ts, s.UnfoldsAll vs ts := by
  induction vs with
  | nil => exact ⟨[], .nil⟩
  | cons v vs ih =>
    obtain ⟨t, head⟩ := each v List.mem_cons_self
    obtain ⟨ts, tail⟩ := ih fun w member => each w (.tail v member)
    exact ⟨t :: ts, .cons head tail⟩

theorem exists_unfoldsEntries {es : List Entry}
    (each : ∀ e ∈ es, (∃ k, s.Unfolds e.key k) ∧ ∃ t, s.Unfolds e.value t) :
    ∃ ts, s.UnfoldsEntries es ts := by
  induction es with
  | nil => exact ⟨[], .nil⟩
  | cons e es ih =>
    obtain ⟨⟨k, key⟩, t, value⟩ := each e List.mem_cons_self
    obtain ⟨ts, tail⟩ := ih fun f member => each f (.tail e member)
    exact ⟨(k, t) :: ts, .cons key value tail⟩

/-- The lists and dicts that a walk is inside of are around the value. -/
def Around (s : Store) (active : List Identity) (v : Value) : Prop :=
  ∀ u : Value, u.identity ∈ active → Relation.TransGen s.Holds u v

/-- An acyclic value is none of those around it. -/
theorem Around.fresh {active : List Identity} (around : s.Around active v) (acyclic : s.Acyclic v) :
    v.identity ∉ active := by
  intro entered
  exact acyclic v .refl (around v entered)

/-- What a value holds has the same around it. -/
theorem Around.held {active : List Identity} (around : s.Around active v) (holds : s.Holds v w) :
    s.Around active w := by
  intro u entered
  exact (around u entered).tail holds

/-- What a value holds has the value around it too, if nothing else has its identity. -/
theorem Around.enter {active : List Identity} (around : s.Around active v) (holds : s.Holds v w)
    (alone : ∀ u : Value, u.identity = v.identity → u = v) :
    s.Around (v.identity :: active) w := by
  intro u entered
  rcases List.mem_cons.mp entered with same | before
  · rw [alone u same]
    exact .single holds
  · exact around.held holds u before

/-- What a list holds has the list around it too. -/
theorem Around.item {active : List Identity} {place : Nat} (around : s.Around active (.list place))
    (member : w ∈ (s.items place).toList) : s.Around (.list place :: active) w := by
  apply around.enter (.item (Array.mem_toList_iff.mp member))
  intro u same
  cases u <;> cases same
  rfl

/-- What a dict holds has the dict around it too. -/
theorem Around.entry {active : List Identity} {place : Nat} (around : s.Around active (.dict place))
    (holds : s.Holds (.dict place) w) : s.Around (.dict place :: active) w := by
  apply around.enter holds
  intro u same
  cases u <;> cases same
  rfl

/-- A walk down from an acyclic value ends, whatever it is inside of: it enters every list and dict
once at most, and the other values hold smaller ones. -/
theorem acc_inside (active : List Identity) (v : Value) (acyclic : s.Acyclic v)
    (around : s.Around active v) : Acc (fun w u => s.Holds u w) v := by
  refine .intro v fun w holds => ?_
  have below := acyclic.of_holds holds
  match holds with
  | @Holds.item _ place _ member =>
    exact acc_inside (.list place :: active) w below (around.item (Array.mem_toList_iff.mpr member))
  | @Holds.key _ place _ member =>
    exact acc_inside (.dict place :: active) _ below (around.entry (.key member))
  | @Holds.value _ place _ member =>
    exact acc_inside (.dict place :: active) _ below (around.entry (.value member))
  | .element member => exact acc_inside active w below (around.held (.element member))
  | .reversed member => exact acc_inside active w below (around.held (.reversed member))
  | .source => exact acc_inside active w below (around.held .source)
  | .part member => exact acc_inside active w below (around.held (.part member))
termination_by (outside s.containers active, sizeOf v)
decreasing_by
  · exact Prod.Lex.left _ _ (outside_cons_lt
      (list_mem_containers (lt_size_of_mem_items (Array.mem_toList_iff.mpr member)))
      (around.fresh acyclic))
  · exact Prod.Lex.left _ _ (outside_cons_lt (dict_mem_containers (lt_size_of_mem_entries member))
      (around.fresh acyclic))
  · exact Prod.Lex.left _ _ (outside_cons_lt (dict_mem_containers (lt_size_of_mem_entries member))
      (around.fresh acyclic))
  · have := List.sizeOf_lt_of_mem member
    exact Prod.Lex.right _ (by simp only [Value.tuple.sizeOf_spec]; omega)
  · have := List.sizeOf_lt_of_mem member
    exact Prod.Lex.right _ (by simp only [Value.reversed.sizeOf_spec]; omega)
  · exact Prod.Lex.right _ (by simp only [Value.enumerate.sizeOf_spec]; omega)
  · have := List.sizeOf_lt_of_mem member
    exact Prod.Lex.right _ (by simp only [Value.zip.sizeOf_spec]; omega)

/-- **Every walk down from an acyclic value ends.** -/
theorem Acyclic.acc (acyclic : s.Acyclic v) : Acc (fun w u => s.Holds u w) v :=
  acc_inside [] v acyclic fun _ entered => absurd entered List.not_mem_nil

/-- **An acyclic value of plain parts unfolds to a tree.** -/
theorem exists_unfolds (acyclic : s.Acyclic v) (plain : ∀ u, s.Reaches v u → u.Plain) :
    ∃ t, s.Unfolds v t := by
  induction acyclic.acc with
  | intro v _ ih =>
    have held {w : Value} (holds : s.Holds v w) : ∃ t, s.Unfolds w t :=
      ih w holds (acyclic.of_holds holds) fun u reached => plain u (reached.head holds)
    cases v with
    | null id => exact ⟨_, .null id⟩
    | bool id b => exact ⟨_, .bool id b⟩
    | int id n => exact ⟨_, .int id n⟩
    | str id text => exact ⟨_, .str id text⟩
    | range id r => exact ⟨_, .range id r⟩
    | tuple id items =>
      obtain ⟨ts, all⟩ := exists_unfoldsAll fun w member => held (.element member)
      exact ⟨.tuple ts, .tuple id all⟩
    | list place =>
      obtain ⟨ts, all⟩ := exists_unfoldsAll fun w (member : w ∈ (s.items place).toList) =>
        held (.item (Array.mem_toList_iff.mp member))
      exact ⟨.list ts, .list all⟩
    | dict place =>
      obtain ⟨ts, all⟩ := exists_unfoldsEntries fun e (member : e ∈ (s.contents place).entries) =>
        ⟨held (.key member), held (.value member)⟩
      exact ⟨.dict ts, .dict all⟩
    | _ => exact (plain _ .refl).elim

/-! ### Only acyclic values have one -/

theorem UnfoldsAll.of_mem {vs : List Value} {ts : List Tree} (all : s.UnfoldsAll vs ts)
    (member : v ∈ vs) : ∃ t ∈ ts, s.Unfolds v t := by
  induction vs generalizing ts with
  | nil => cases member
  | cons w ws ih =>
    cases all with
    | cons head tail =>
      rcases List.mem_cons.mp member with rfl | later
      · exact ⟨_, List.mem_cons_self, head⟩
      · obtain ⟨t, inside, unfolds⟩ := ih tail later
        exact ⟨t, .tail _ inside, unfolds⟩

theorem UnfoldsEntries.of_mem {es : List Entry} {ts : List (Tree × Tree)}
    (all : s.UnfoldsEntries es ts) {e : Entry} (member : e ∈ es) :
    ∃ p ∈ ts, s.Unfolds e.key p.1 ∧ s.Unfolds e.value p.2 := by
  induction es generalizing ts with
  | nil => cases member
  | cons f es ih =>
    cases all with
    | cons key value tail =>
      rcases List.mem_cons.mp member with rfl | later
      · exact ⟨_, List.mem_cons_self, key, value⟩
      · obtain ⟨p, inside, unfolds⟩ := ih tail later
        exact ⟨p, .tail _ inside, unfolds⟩

/-- **What an unfolded value holds unfolds to a smaller tree.** -/
theorem Unfolds.of_holds (unfolds : s.Unfolds v t) (holds : s.Holds v w) :
    ∃ t', s.Unfolds w t' ∧ sizeOf t' < sizeOf t ∧ (t.Readable → t'.Readable) := by
  cases holds with
  | item member =>
    cases unfolds with
    | list all =>
      obtain ⟨t', inside, held⟩ := all.of_mem (Array.mem_toList_iff.mpr member)
      have := List.sizeOf_lt_of_mem inside
      exact ⟨t', held, by simp only [Tree.list.sizeOf_spec]; omega,
        fun readable => Tree.readable_of_mem readable inside⟩
  | key member =>
    cases unfolds with
    | dict all =>
      obtain ⟨⟨k, t'⟩, inside, held, _⟩ := all.of_mem member
      have := List.sizeOf_lt_of_mem inside
      exact ⟨k, held, by simp only [Tree.dict.sizeOf_spec, Prod.mk.sizeOf_spec] at *; omega,
        fun readable => (Tree.readable_of_mem_entries readable.1 inside).1⟩
  | value member =>
    cases unfolds with
    | dict all =>
      obtain ⟨⟨k, t'⟩, inside, _, held⟩ := all.of_mem member
      have := List.sizeOf_lt_of_mem inside
      exact ⟨t', held, by simp only [Tree.dict.sizeOf_spec, Prod.mk.sizeOf_spec] at *; omega,
        fun readable => (Tree.readable_of_mem_entries readable.1 inside).2⟩
  | element member =>
    cases unfolds with
    | tuple id all =>
      obtain ⟨t', inside, held⟩ := all.of_mem member
      have := List.sizeOf_lt_of_mem inside
      exact ⟨t', held, by simp only [Tree.tuple.sizeOf_spec]; omega,
        fun readable => Tree.readable_of_mem readable inside⟩
  | reversed | source | part => cases unfolds

theorem Unfolds.of_reaches (unfolds : s.Unfolds v t) (reached : s.Reaches v w) :
    ∃ t', s.Unfolds w t' ∧ (t.Readable → t'.Readable) := by
  induction reached with
  | refl => exact ⟨t, unfolds, id⟩
  | tail _ holds ih =>
    obtain ⟨t', inner, readable⟩ := ih
    obtain ⟨t'', innermost, _, readable'⟩ := inner.of_holds holds
    exact ⟨t'', innermost, fun whole => readable' (readable whole)⟩

/-- **Only acyclic values unfold**: a value inside itself would have a tree smaller than its own. -/
theorem Unfolds.acyclic (unfolds : s.Unfolds v t) : s.Acyclic v := by
  intro w reached inside
  obtain ⟨outer, whole, _⟩ := unfolds.of_reaches reached
  have smaller {u : Value} (path : Relation.TransGen s.Holds w u) :
      ∃ t', s.Unfolds u t' ∧ sizeOf t' < sizeOf outer := by
    induction path with
    | single holds =>
      obtain ⟨t', inner, less, _⟩ := whole.of_holds holds
      exact ⟨t', inner, less⟩
    | tail _ holds ih =>
      obtain ⟨t', inner, less⟩ := ih
      obtain ⟨t'', innermost, less', _⟩ := inner.of_holds holds
      exact ⟨t'', innermost, Nat.lt_trans less' less⟩
  obtain ⟨t', again, less⟩ := smaller inside
  rw [again.unique whole] at less
  exact Nat.lt_irrefl _ less

/-! ### Trees of plain values are readable -/

mutual

/-- **A value has the slot of its tree.** -/
theorem Unfolds.slot {v : Value} {t : Tree} (unfolds : s.Unfolds v t) :
    (Slot.of? v).toOption = t.slot? := by
  cases unfolds with
  | tuple id all =>
    rw [Slot.of?, Tree.slot?, ← UnfoldsAll.slots all]
    cases Slot.ofItems? _ <;> rfl
  | null | bool | int | str | list | dict | range => rfl

theorem UnfoldsAll.slots {vs : List Value} {ts : List Tree} (all : s.UnfoldsAll vs ts) :
    (Slot.ofItems? vs).toOption = Tree.slots? ts := by
  cases all with
  | nil => rfl
  | cons head tail =>
    rw [Slot.ofItems?, Tree.slots?, ← Unfolds.slot head, ← UnfoldsAll.slots tail]
    cases Slot.of? _ with
    | error cause => rfl
    | ok slot => cases Slot.ofItems? _ <;> rfl

end

/-- A value whose tree has a slot has this slot. -/
theorem Unfolds.of?_eq {v : Value} {t : Tree} {slot : Slot} (unfolds : s.Unfolds v t)
    (hashed : t.slot? = some slot) : Slot.of? v = .ok slot := by
  have same := unfolds.slot.trans hashed
  cases found : Slot.of? v with
  | error cause =>
    rw [found] at same
    cases same
  | ok slot' =>
    rw [found] at same
    rw [Option.some.inj same]

/-- The slots of entries are those of the trees of their keys. -/
theorem UnfoldsEntries.slots {es : List Entry} {ts : List (Tree × Tree)}
    (all : s.UnfoldsEntries es ts) :
    ts.map (fun p => p.1.slot?) = (es.map Entry.slot).map some := by
  induction es generalizing ts with
  | nil =>
    cases all
    rfl
  | cons e es ih =>
    cases all with
    | cons key value tail =>
      rw [List.map_cons, List.map_cons, List.map_cons, ih tail, ← key.slot, e.hashed]
      rfl

mutual

/-- **A value of plain parts unfolds to a readable tree.** -/
theorem Unfolds.readable {v : Value} {t : Tree} (unfolds : s.Unfolds v t)
    (plain : ∀ u, s.Reaches v u → u.Plain) : t.Readable := by
  have held {w : Value} (holds : s.Holds v w) : ∀ u, s.Reaches w u → u.Plain :=
    fun u reached => plain u (reached.head holds)
  cases unfolds with
  | str id text => exact plain _ .refl
  | list all =>
    exact UnfoldsAll.readable all fun w member => held (.item (Array.mem_toList_iff.mp member))
  | dict all =>
    exact ⟨UnfoldsEntries.readable all (fun e member => held (.key member))
      (fun e member => held (.value member)), _, all.slots, Dict.distinct _⟩
  | tuple id all => exact UnfoldsAll.readable all fun w member => held (.element member)
  | null | bool | int | range => trivial

theorem UnfoldsAll.readable {vs : List Value} {ts : List Tree} (all : s.UnfoldsAll vs ts)
    (plain : ∀ v ∈ vs, ∀ u, s.Reaches v u → u.Plain) : Tree.ReadableAll ts := by
  cases all with
  | nil => trivial
  | cons head tail =>
    exact ⟨Unfolds.readable head (plain _ List.mem_cons_self),
      UnfoldsAll.readable tail fun w member => plain w (.tail _ member)⟩

theorem UnfoldsEntries.readable {es : List Entry} {ts : List (Tree × Tree)}
    (all : s.UnfoldsEntries es ts) (keys : ∀ e ∈ es, ∀ u, s.Reaches e.key u → u.Plain)
    (values : ∀ e ∈ es, ∀ u, s.Reaches e.value u → u.Plain) : Tree.ReadableEntries ts := by
  cases all with
  | nil => trivial
  | cons key value tail =>
    exact ⟨Unfolds.readable key (keys _ List.mem_cons_self),
      Unfolds.readable value (values _ List.mem_cons_self),
      UnfoldsEntries.readable tail (fun e member => keys e (.tail _ member))
        fun e member => values e (.tail _ member)⟩

end

/-- What is found in a value with a readable tree is plain. -/
theorem Unfolds.plain {v : Value} {t : Tree} (unfolds : s.Unfolds v t) (readable : t.Readable) :
    ∀ u, s.Reaches v u → u.Plain := by
  intro u reached
  obtain ⟨t', inner, readable'⟩ := unfolds.of_reaches reached
  have part := readable' readable
  cases inner with
  | str id text => exact part
  | null | bool | int | list | dict | tuple | range => trivial

end Store

end CallConsole
