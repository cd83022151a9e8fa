/-
**Sorting is correct and stable in both directions.**

The sort asks only whether a later item must come before an earlier one. Items are numbered by their
positions to say which of them is the later one:

* `Sorting.merge_sorted`: merging two sorted runs succeeds and sorts them;
* `Sorting.sort_sorted`: so does sorting a sequence of which any two items are decided;
* `Store.sort_stable`: values without NaN of which any two can be compared are sorted stably, in
  ascending and in descending order.
-/

import CallConsole.Proofs.ComparisonLaws
import CallConsole.Sorting

namespace CallConsole

namespace Sorting

variable {α β ε : Type} {precedes : α → α → Except ε Bool}

/-! ### Runs -/

variable {Comes : α → α → Prop}

/-- Of two items the later one precedes the earlier one, or does not, as `Comes` has it. -/
def Decided (precedes : α → α → Except ε Bool) (Comes : α → α → Prop) (earlier later : α) : Prop :=
  precedes later earlier = .ok true ∧ Comes later earlier ∨
    precedes later earlier = .ok false ∧ Comes earlier later

/-- **Two sorted runs, whose items are decided against each other, are merged into one.** -/
theorem merge_sorted (trans : ∀ a b c, Comes a b → Comes b c → Comes a c) {left right : List α}
    (first : left.Pairwise Comes) (second : right.Pairwise Comes)
    (decided : ∀ a ∈ left, ∀ b ∈ right, Decided precedes Comes a b) :
    ∃ merged, merge precedes left right = .ok merged ∧ merged.Perm (left ++ right) ∧
      merged.Pairwise Comes := by
  fun_induction merge precedes left right with
  | case1 right => exact ⟨right, rfl, .refl right, second⟩
  | case2 left => exact ⟨left, rfl, .of_eq (List.append_nil left).symm, first⟩
  | case3 l left r right cause asked =>
    rcases decided l List.mem_cons_self r List.mem_cons_self with ⟨answer, _⟩ | ⟨answer, _⟩
    all_goals
      rw [asked] at answer
      cases answer
  | case4 l left r right asked ih =>
    obtain ⟨firstR, second⟩ := List.pairwise_cons.mp second
    obtain ⟨merged, done, perm, sorted⟩ :=
      ih first second fun a inside b there => decided a inside b (.tail r there)
    have before : Comes r l := by
      rcases decided l List.mem_cons_self r List.mem_cons_self with ⟨_, comes⟩ | ⟨answer, _⟩
      · exact comes
      · rw [asked] at answer
        cases answer
    refine ⟨r :: merged, by rw [done]; rfl, ?_, List.pairwise_cons.mpr ⟨fun a member => ?_, sorted⟩⟩
    · exact (perm.cons r).trans List.perm_middle.symm
    · -- what is merged is `l`, comes after `l`, or comes after `r`
      rcases List.mem_append.mp (perm.mem_iff.mp member) with inside | there
      · rcases List.mem_cons.mp inside with rfl | inside
        · exact before
        · exact trans r l a before ((List.pairwise_cons.mp first).1 a inside)
      · exact firstR a there
  | case5 l left r right asked ih =>
    obtain ⟨firstL, first⟩ := List.pairwise_cons.mp first
    obtain ⟨merged, done, perm, sorted⟩ :=
      ih first second fun a inside => decided a (.tail l inside)
    have before : Comes l r := by
      rcases decided l List.mem_cons_self r List.mem_cons_self with ⟨answer, _⟩ | ⟨_, comes⟩
      · rw [asked] at answer
        cases answer
      · exact comes
    refine ⟨l :: merged, by rw [done]; rfl, perm.cons l, List.pairwise_cons.mpr
      ⟨fun a member => ?_, sorted⟩⟩
    rcases List.mem_append.mp (perm.mem_iff.mp member) with inside | there
    · exact firstL a inside
    · rcases List.mem_cons.mp there with rfl | there
      · exact before
      · exact trans l r a before ((List.pairwise_cons.mp second).1 a there)

/-- **A sequence of which any two items are decided is sorted.** -/
theorem sort_sorted (trans : ∀ a b c, Comes a b → Comes b c → Comes a c) {items : List α}
    (decided : items.Pairwise (Decided precedes Comes)) :
    ∃ sorted, sort precedes items = .ok sorted ∧ sorted.Perm items ∧ sorted.Pairwise Comes := by
  induction length : items.length using Nat.strongRecOn generalizing items with
  | ind count ih =>
    subst length
    by_cases many : 2 ≤ items.length
    · have halves := List.take_append_drop (items.length / 2) items
      rw [← halves] at decided
      obtain ⟨decidedL, decidedR, across⟩ := List.pairwise_append.mp decided
      obtain ⟨left, doneL, permL, sortedL⟩ := ih _ (by rw [List.length_take]; omega) decidedL rfl
      obtain ⟨right, doneR, permR, sortedR⟩ := ih _ (by rw [List.length_drop]; omega) decidedR rfl
      obtain ⟨merged, done, perm, sorted⟩ := merge_sorted trans sortedL sortedR
        fun a inside b there => across a (permL.mem_iff.mp inside) b (permR.mem_iff.mp there)
      refine ⟨merged, ?_, ?_, sorted⟩
      · rw [sort, dif_pos many, doneL, doneR]
        exact done
      · exact halves ▸ perm.trans (permL.append permR)
    · refine ⟨items, ?_, .refl items, ?_⟩
      · rw [sort, dif_neg many]
      · cases items with
        | nil => exact .nil
        | cons a rest =>
          cases rest with
          | nil => exact List.pairwise_singleton Comes a
          | cons b more => simp at many

end Sorting

/-! ### The order in which values come -/

/-- The laws hold of the reversed order too. -/
theorem OrderLaws.flip {α : Type} {Free : α → Prop} {Same : α → α → Prop}
    {order : α → α → Except Cause Ordering} (laws : OrderLaws Free Same order) :
    OrderLaws Free Same fun a b => order b a where
  swap freeA freeB ranked := laws.swap freeB freeA ranked
  tie freeA freeB tied := laws.tie freeA freeB (laws.swap freeB freeA tied)
  congr freeA freeB freeC same ranked := laws.congr_right freeC freeA freeB same ranked
  trans freeA freeB freeC before after := laws.trans freeC freeB freeA after before

namespace Store

variable {s : Store} {descending : Bool}

/-- The order by which the sort arranges values. -/
def directed (s : Store) (descending : Bool) (a b : Value) : Except Cause Ordering :=
  if descending then s.compare b a else s.compare a b

theorem directed_laws : OrderLaws s.NanFree (s.equal · · = true) (s.directed descending) := by
  cases descending with
  | true => exact compare_laws.flip
  | false => exact compare_laws

/-- A numbered value comes before another one: it is less, or it is tied and has the smaller number.
Neither of the values has a NaN in it. -/
structure Comes (s : Store) (descending : Bool) (a b : Value × Nat) : Prop where
  first : s.NanFree a.1
  second : s.NanFree b.1
  ranked : s.directed descending a.1 b.1 = .ok .lt ∨
    s.directed descending a.1 b.1 = .ok .eq ∧ a.2 < b.2

theorem Comes.trans {a b c : Value × Nat} (before : s.Comes descending a b)
    (after : s.Comes descending b c) : s.Comes descending a c := by
  refine ⟨before.first, after.second, ?_⟩
  have chain {o o' : Ordering} (left : s.directed descending a.1 b.1 = .ok o)
      (right : s.directed descending b.1 c.1 = .ok o') (first : o ≠ .gt) (second : o' ≠ .gt) :=
    directed_laws.trans_then before.first after.first after.second left right first second
  rcases before.ranked with less | ⟨tied, number⟩
  · rcases after.ranked with less' | ⟨tied', _⟩
    · exact .inl (chain less less' nofun nofun)
    · exact .inl (chain less tied' nofun nofun)
  · rcases after.ranked with less' | ⟨tied', number'⟩
    · exact .inl (chain tied less' nofun nofun)
    · exact .inr ⟨chain tied tied' nofun nofun, Nat.lt_trans number number'⟩

/-- Of two numbered values the later one must come before the earlier one. -/
def numberedPrecedes (s : Store) (descending : Bool) (later earlier : Value × Nat) :
    Except Cause Bool :=
  s.precedes descending later.1 earlier.1

/-- **Values that can be compared are decided**, the tied ones by their numbers. -/
theorem decided_of_compare {a b : Value × Nat} (first : s.NanFree a.1) (second : s.NanFree b.1)
    (number : a.2 < b.2) (comparable : ∃ o, s.compare a.1 b.1 = .ok o) :
    Sorting.Decided (s.numberedPrecedes descending) (s.Comes descending) a b := by
  have asked : ∃ o, s.directed descending b.1 a.1 = .ok o := by
    obtain ⟨o, ranked⟩ := comparable
    cases descending with
    | true => exact ⟨o, ranked⟩
    | false => exact ⟨o.swap, compare_laws.swap first second ranked⟩
  obtain ⟨o, ranked⟩ := asked
  have turned := directed_laws.swap second first ranked
  have answer : s.precedes descending b.1 a.1 = .ok (o == .lt) := by
    show (s.directed descending b.1 a.1).map (· == .lt) = _
    rw [ranked]
    rfl
  cases o with
  | lt => exact .inl ⟨answer, second, first, .inl ranked⟩
  | eq => exact .inr ⟨answer, first, second, .inr ⟨turned, number⟩⟩
  | gt => exact .inr ⟨answer, first, second, .inl turned⟩

/-- What comes first is not greater, or not less in descending order, and a tie is in the order of
the numbers. -/
theorem Comes.compare {a b : Value × Nat} (comes : s.Comes descending a b) :
    ∃ o, s.compare a.1 b.1 = .ok o ∧ o ≠ (if descending then .lt else .gt) ∧
      (o = .eq → a.2 < b.2) := by
  have turn {o : Ordering} (ranked : s.compare b.1 a.1 = .ok o) : s.compare a.1 b.1 = .ok o.swap :=
    compare_laws.swap comes.second comes.first ranked
  rcases comes.ranked with less | ⟨tied, number⟩
  · cases descending with
    | true => exact ⟨.gt, turn less, nofun, nofun⟩
    | false => exact ⟨.lt, less, nofun, nofun⟩
  · cases descending with
    | true => exact ⟨.eq, turn tied, nofun, fun _ => number⟩
    | false => exact ⟨.eq, tied, nofun, fun _ => number⟩

/-! ### The sort of values -/

/-- Numbering the items keeps what holds of any two of them, and numbers them in order. -/
theorem pairwise_zipIdx {R : Value → Value → Prop} {items : List Value}
    (related : items.Pairwise R) :
    items.zipIdx.Pairwise fun a b => R a.1 b.1 ∧ a.2 < b.2 := by
  rw [List.pairwise_iff_getElem] at related ⊢
  intro i j inside there less
  rw [List.length_zipIdx] at inside there
  rw [List.getElem_zipIdx, List.getElem_zipIdx]
  exact ⟨related i j inside there less, by omega⟩

/-- Any two numbers can be compared. -/
theorem comparable_numbers {items : List Value}
    (numbers : ∀ v ∈ items, ∃ a, Number.of? v = some a) :
    items.Pairwise fun a b => ∃ o, s.compare a b = .ok o := by
  refine List.Pairwise.imp_of_mem ?_
    (List.pairwise_of_forall (R := fun _ _ => True) fun _ _ => trivial)
  intro a b first second _
  obtain ⟨m, number⟩ := numbers a first
  obtain ⟨n, number'⟩ := numbers b second
  exact ⟨_, compareWith_eq_ok_iff.mpr (.number number number')⟩

/-- **Sorting values is sorting numbered ones** and dropping the numbers. -/
theorem sort_eq_numbered (s : Store) (descending : Bool) (items : List Value) :
    s.sort descending items =
      (Sorting.sort (s.numberedPrecedes descending) items.zipIdx).map (List.map Prod.fst) := by
  have plain : Sorting.sort (s.precedes descending) (items.zipIdx.map Prod.fst) = _ :=
    Sorting.sort_map Prod.fst items.zipIdx
  rwa [List.zipIdx_map_fst] at plain

/-- Values of which any two can be compared are decided once they are numbered. -/
theorem decided_zipIdx {items : List Value} (free : ∀ v ∈ items, s.NanFree v)
    (comparable : items.Pairwise fun a b => ∃ o, s.compare a b = .ok o) :
    items.zipIdx.Pairwise
      (Sorting.Decided (s.numberedPrecedes descending) (s.Comes descending)) := by
  apply (pairwise_zipIdx comparable).imp_of_mem
  intro a b inside there related
  exact decided_of_compare (free a.1 (List.fst_mem_of_mem_zipIdx inside))
    (free b.1 (List.fst_mem_of_mem_zipIdx there)) related.2 related.1

/-- **Sorting is stable in both directions.** Values without NaN of which any two can be compared
are sorted: the same objects come out, none before a lesser one (none before a greater one in
descending order), and tied ones in the order in which they came in. -/
theorem sort_stable (s : Store) (descending : Bool) (items : List Value)
    (free : ∀ v ∈ items, s.NanFree v)
    (comparable : items.Pairwise fun a b => ∃ o, s.compare a b = .ok o) :
    ∃ arranged : List (Value × Nat), arranged.Perm items.zipIdx ∧
      s.sort descending items = .ok (arranged.map Prod.fst) ∧
      arranged.Pairwise fun a b => ∃ o, s.compare a.1 b.1 = .ok o ∧
        o ≠ (if descending then .lt else .gt) ∧ (o = .eq → a.2 < b.2) := by
  obtain ⟨arranged, done, perm, sorted⟩ := Sorting.sort_sorted
    (fun a b c before after => before.trans after) (decided_zipIdx free comparable)
  refine ⟨arranged, perm, ?_, sorted.imp Comes.compare⟩
  rw [sort_eq_numbered, done]
  rfl

/-- One, true and one as a double are tied, and zero is less than they are. -/
def tiedItems : List Value :=
  [.int 0 1, .bool 1 true, .int 2 0, .float 3 ⟨0x3ff0000000000000⟩]

/-- The lesser value goes to the front, or to the back, and the tied ones stay as they are. -/
theorem sort_tiedItems (descending : Bool) : Store.empty.sort descending tiedItems = .ok
    (if descending then [.int 0 1, .bool 1 true, .float 3 ⟨0x3ff0000000000000⟩, .int 2 0]
      else [.int 2 0, .int 0 1, .bool 1 true, .float 3 ⟨0x3ff0000000000000⟩]) := by
  have truth_one : ∀ down, Store.empty.precedes down (.bool 1 true) (.int 0 1) = .ok false := by
    decide +kernel
  have zero_one : ∀ down, Store.empty.precedes down (.int 2 0) (.int 0 1) = .ok !down := by
    decide +kernel
  have double_one : ∀ down, Store.empty.precedes down (.float 3 ⟨0x3ff0000000000000⟩) (.int 0 1) =
      .ok false := by
    decide +kernel
  have double_truth : ∀ down, Store.empty.precedes down (.float 3 ⟨0x3ff0000000000000⟩)
      (.bool 1 true) = .ok false := by
    decide +kernel
  have double_zero : ∀ down, Store.empty.precedes down (.float 3 ⟨0x3ff0000000000000⟩) (.int 2 0) =
      .ok down := by
    decide +kernel
  rw [sort, tiedItems]
  cases descending <;>
    simp [Sorting.sort, Sorting.merge, truth_one, zero_one, double_one, double_truth, double_zero,
      Except.map]

/-- The tied values are sorted in both directions. -/
theorem sort_stable_tiedItems :
    (∀ v ∈ tiedItems, Store.empty.NanFree v) ∧
      (tiedItems.Pairwise fun a b => ∃ o, Store.empty.compare a b = .ok o) ∧
      ∀ descending, ∃ arranged : List (Value × Nat), arranged.Perm tiedItems.zipIdx ∧
        Store.empty.sort descending tiedItems = .ok (arranged.map Prod.fst) ∧
        (arranged.Pairwise fun a b => ∃ o, Store.empty.compare a.1 b.1 = .ok o ∧
          o ≠ (if descending then .lt else .gt) ∧ (o = .eq → a.2 < b.2)) ∧
        arranged.map Prod.fst =
          if descending then [.int 0 1, .bool 1 true, .float 3 ⟨0x3ff0000000000000⟩, .int 2 0]
          else [.int 2 0, .int 0 1, .bool 1 true, .float 3 ⟨0x3ff0000000000000⟩] := by
  have numbers : ∀ v ∈ tiedItems, ∃ a, Number.of? v = some a ∧ a.isNan = false := by
    intro v member
    simp only [tiedItems, List.mem_cons, List.not_mem_nil, or_false] at member
    rcases member with rfl | rfl | rfl | rfl
    · exact ⟨_, rfl, rfl⟩
    · exact ⟨_, rfl, rfl⟩
    · exact ⟨_, rfl, rfl⟩
    · exact ⟨_, rfl, by decide⟩
  have free : ∀ v ∈ tiedItems, Store.empty.NanFree v := by
    intro v member
    obtain ⟨a, number, notNan⟩ := numbers v member
    exact nanFree_number number notNan
  have comparable : tiedItems.Pairwise fun a b => ∃ o, Store.empty.compare a b = .ok o := by
    refine comparable_numbers fun v member => ?_
    obtain ⟨a, number, _⟩ := numbers v member
    exact ⟨a, number⟩
  refine ⟨free, comparable, fun descending => ?_⟩
  obtain ⟨arranged, perm, done, stable⟩ :=
    sort_stable Store.empty descending tiedItems free comparable
  refine ⟨arranged, perm, done, stable, ?_⟩
  exact Except.ok.inj (done.symm.trans (sort_tiedItems descending))

end Store

end CallConsole
