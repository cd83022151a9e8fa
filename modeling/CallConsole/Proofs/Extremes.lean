/-
**`min` and `max` agree with `sorted`.**

A search from left to right keeps the first of the items that nothing beats; a stable sort puts it
in front. So both find the same object among any number of ties:

* `Sorting.select_first`: a search among decided items finds the one that comes first;
* `Sorting.select_eq_head`: which is the head of the sorted items;
* `Builtin.extremes_head_sorted`: `min` and `max` yield the object that `sorted` puts in front, in
  ascending and in descending order.
-/

import CallConsole.Proofs.RankingCalls
import CallConsole.Proofs.StableSort

namespace CallConsole

namespace Sorting

variable {α β ε : Type} {beats precedes : α → α → Except ε Bool} {Comes : α → α → Prop}

/-- What is decided by one question is decided by another one with the same answer. -/
theorem Decided.of_eq {earlier later : α} (decided : Decided precedes Comes earlier later)
    (same : beats later earlier = precedes later earlier) : Decided beats Comes earlier later := by
  unfold Decided
  rwa [same]

/-- Searching commutes with replacing every item by what it stands for. -/
theorem select_map (f : β → α) (best : β) (rest : List β) :
    select beats (f best) (rest.map f) =
      (select (fun v best => beats (f v) (f best)) best rest).map f := by
  fun_induction select (fun v best => beats (f v) (f best)) best rest with
  | case1 best => rfl
  | case2 best x rest e asked =>
    rw [List.map_cons, select, asked]
    rfl
  | case3 best x rest asked ih =>
    rw [List.map_cons, select, asked]
    exact ih
  | case4 best x rest asked ih =>
    rw [List.map_cons, select, asked]
    exact ih

/-- **A search among decided items finds the one that comes before all others.** -/
theorem select_first (trans : ∀ a b c, Comes a b → Comes b c → Comes a c) {best : α} {rest : List α}
    (decided : (best :: rest).Pairwise (Decided beats Comes)) :
    ∃ found, select beats best rest = .ok found ∧ found ∈ best :: rest ∧
      ∀ x ∈ best :: rest, x = found ∨ Comes found x := by
  induction rest generalizing best with
  | nil =>
    refine ⟨best, rfl, List.mem_cons_self, fun x member => .inl ?_⟩
    exact List.mem_singleton.mp member
  | cons x rest ih =>
    obtain ⟨others, decided⟩ := List.pairwise_cons.mp decided
    rcases others x List.mem_cons_self with ⟨answer, comes⟩ | ⟨answer, comes⟩
    · -- the best so far comes after the new best one, and so after what is found
      obtain ⟨found, done, member, first⟩ := ih decided
      refine ⟨found, by rw [select, answer]; exact done, .tail best member, ?_⟩
      refine List.forall_mem_cons.mpr ⟨.inr ?_, first⟩
      rcases first x List.mem_cons_self with rfl | before
      · exact comes
      · exact trans found x best before comes
    · have skipped : (best :: rest).Pairwise (Decided beats Comes) :=
        List.pairwise_cons.mpr ⟨fun y inside => others y (.tail x inside),
          (List.pairwise_cons.mp decided).2⟩
      obtain ⟨found, done, member, first⟩ := ih skipped
      obtain ⟨before, rest'⟩ := List.forall_mem_cons.mp first
      refine ⟨found, by rw [select, answer]; exact done, ?_, ?_⟩
      · exact List.cons_subset_cons best (List.subset_cons_self x rest) member
      · refine List.forall_mem_cons.mpr ⟨before, List.forall_mem_cons.mpr ⟨.inr ?_, rest'⟩⟩
        rcases before with rfl | before
        · exact comes
        · exact trans found best x before comes

/-- **What the search finds is what the sort puts in front.** -/
theorem select_eq_head (trans : ∀ a b c, Comes a b → Comes b c → Comes a c)
    (irrefl : ∀ a, ¬ Comes a a) {best : α} {rest : List α}
    (searched : (best :: rest).Pairwise (Decided beats Comes))
    (sorted : (best :: rest).Pairwise (Decided precedes Comes)) :
    ∃ first others, select beats best rest = .ok first ∧
      sort precedes (best :: rest) = .ok (first :: others) ∧
      (first :: others).Perm (best :: rest) ∧ ∀ x ∈ others, Comes first x := by
  obtain ⟨found, done, inside, before⟩ := select_first trans searched
  obtain ⟨arranged, arranges, perm, ordered⟩ := sort_sorted trans sorted
  obtain ⟨first, others, rfl⟩ := List.exists_cons_of_ne_nil
    (List.ne_nil_of_mem (perm.mem_iff.mpr inside))
  have after := (List.pairwise_cons.mp ordered).1
  have same : first = found := by
    rcases before first (perm.mem_iff.mp List.mem_cons_self) with same | comes
    · exact same
    · -- what comes before the head is the head, or comes after it
      rcases List.mem_cons.mp (perm.mem_iff.mpr inside) with same | behind
      · exact same.symm
      · exact absurd (trans found first found comes (after found behind)) (irrefl found)
  exact ⟨first, others, same ▸ done, arranges, perm, after⟩

end Sorting

namespace Store

variable {s : Store} {descending : Bool}

/-- Nothing comes before itself. -/
theorem Comes.irrefl (a : Value × Nat) : ¬ s.Comes descending a a := by
  intro comes
  rcases comes.ranked with less | ⟨_, number⟩
  · have turned := directed_laws.swap comes.first comes.first less
    rw [less] at turned
    cases turned
  · exact Nat.lt_irrefl _ number

/-- The items of a list or tuple are its elements, and without NaN where it is. -/
theorem objects_of_sequence {v : Value} {items : List Value} (held : s.sequence? v = some items)
    (free : s.NanFree v) : s.objects? v = some items ∧ ∀ x ∈ items, s.NanFree x := by
  cases v with
  | list =>
    cases held
    exact ⟨rfl, free.items⟩
  | tuple =>
    cases held
    exact ⟨rfl, free.elements⟩
  | _ => cases held

/-- How the better of two values compares with the other: less, or greater in descending order. -/
def better (descending : Bool) : Ordering := if descending then .gt else .lt

/-- Where no NaN is, what beats another value precedes it. -/
theorem beats_eq_precedes {a b : Value} (first : s.NanFree a) (second : s.NanFree b)
    (comparable : ∃ o, s.compare a b = .ok o) :
    s.beats (better descending) b a = s.precedes descending b a := by
  obtain ⟨o, ranked⟩ := comparable
  have turned : s.compare b a = .ok o.swap := compare_laws.swap first second ranked
  cases descending with
  | false => rfl
  | true =>
    simp only [beats, precedes, better, turned, ranked, ↓reduceIte]
    cases o <;> rfl

/-- Numbered values that are decided for the sort are decided for the search. -/
theorem searched_zipIdx {items : List Value} (free : ∀ v ∈ items, s.NanFree v)
    (comparable : items.Pairwise fun a b => ∃ o, s.compare a b = .ok o) :
    items.zipIdx.Pairwise (Sorting.Decided
      (fun v best => s.beats (better descending) v.1 best.1) (s.Comes descending)) := by
  have decided : items.zipIdx.Pairwise (Sorting.Decided _ (s.Comes descending)) :=
    decided_zipIdx free comparable
  refine ((pairwise_zipIdx comparable).and decided).imp_of_mem ?_
  rintro a b inside there ⟨⟨compared, _⟩, decided⟩
  exact decided.of_eq (beats_eq_precedes (free a.1 (List.fst_mem_of_mem_zipIdx inside))
    (free b.1 (List.fst_mem_of_mem_zipIdx there)) compared)

/-- **The search for an extreme value finds what a stable sort puts in front**: the same object,
from the same position, with nothing better in front of it or behind it and its ties behind it. -/
theorem exists_extreme {items : List Value} (nonempty : items ≠ []) (free : ∀ v ∈ items, s.NanFree v)
    (comparable : items.Pairwise fun a b => ∃ o, s.compare a b = .ok o) :
    ∃ first others,
      Sorting.sort (s.numberedPrecedes descending) items.zipIdx = .ok (first :: others) ∧
      (first :: others).Perm items.zipIdx ∧ (∀ x ∈ others, s.Comes descending first x) ∧
      ∀ function, Builtin.extremumAmong function (better descending) items s =
        .ok first.1 s := by
  obtain ⟨v, rest, rfl⟩ := List.exists_cons_of_ne_nil nonempty
  obtain ⟨first, others, searched, sorted, perm, after⟩ := Sorting.select_eq_head
    (fun a b c before after => before.trans after) Comes.irrefl
    (searched_zipIdx free comparable) (decided_zipIdx free comparable)
  refine ⟨first, others, sorted, perm, after, fun function => ?_⟩
  -- the search among the values is the one among the numbered ones
  have found : Sorting.select (s.beats (better descending)) v (rest.zipIdx 1 |>.map Prod.fst) = _ :=
    Sorting.select_map Prod.fst (v, 0) (rest.zipIdx 1)
  rw [searched, List.zipIdx_map_fst] at found
  rw [Builtin.extremumAmong, Action.extremum_eq_select]
  exact Action.tryRead_of_ok found

end Store

namespace Builtin

/-- The call of `min`, or of `max` in descending order, comes to what the search does. -/
theorem outcome_extremum {w : World} {arguments items : List Value} {descending : Bool}
    {found : Value} (nonempty : arguments ≠ [])
    (searches : ∀ function wanted, extremumOf function wanted arguments w.store =
      extremumAmong function wanted items w.store)
    (finds : ∀ function, extremumAmong function (Store.better descending) items w.store =
      .ok found w.store) :
    (invoke (if descending then "max" else "min") arguments).outcome w = (.ok found, w) := by
  cases descending with
  | false =>
    refine (outcome_min w nonempty).trans (Run.outcome_act_of_ok ?_)
    exact (searches "min" .lt).trans (finds "min")
  | true =>
    refine (outcome_max w nonempty).trans (Run.outcome_act_of_ok ?_)
    exact (searches "max" .gt).trans (finds "max")

/-- **`min` and `max` agree with `sorted`.** Of a list or tuple that is not empty, from which no NaN
is reachable and of which any two items can be compared, `min` yields the object that `sorted` puts
in front, and `max` the one that it puts in front in descending order: the first of those that
nothing is better than. So do they with the items as arguments, if there are two or more. -/
theorem extremes_head_sorted {w : World} {v : Value} {items : List Value}
    (held : w.store.sequence? v = some items) (nonempty : items ≠ []) (free : w.store.NanFree v)
    (comparable : items.Pairwise fun a b => ∃ o, w.store.compare a b = .ok o)
    {flag : Option Value} {descending : Bool}
    (direction : flag.any w.store.truthy = descending) :
    ∃ first others,
      Sorting.sort (w.store.numberedPrecedes descending) items.zipIdx = .ok (first :: others) ∧
      (first :: others).Perm items.zipIdx ∧
      (∀ x ∈ others, ∃ o, w.store.compare first.1 x.1 = .ok o ∧
        o ≠ (if descending then .lt else .gt) ∧ (o = .eq → first.2 < x.2)) ∧
      (invoke "sorted" (v :: flag.toList)).outcome w =
        (.ok (.list w.store.lists.size),
          { w with store := (w.store.createList ((first :: others).map Prod.fst)).2 }) ∧
      (invoke (if descending then "max" else "min") [v]).outcome w = (.ok first.1, w) ∧
      (2 ≤ items.length →
        (invoke (if descending then "max" else "min") items).outcome w = (.ok first.1, w)) := by
  obtain ⟨objects, frees⟩ := Store.objects_of_sequence held free
  have taken := Action.elements_objects objects
  obtain ⟨first, others, sorted, perm, comes, finds⟩ :=
    Store.exists_extreme nonempty frees comparable
  refine ⟨first, others, sorted, perm, fun x member => (comes x member).compare, ?_, ?_, ?_⟩
  · rw [outcome_sorted]
    refine Run.outcome_act_of_ok ?_
    have done := (Store.sort_eq_numbered w.store descending items).trans (congrArg _ sorted)
    rw [sortedOf_eq taken, direction, EStateM.bind_of_ok (Action.tryRead_of_ok done)]
    rfl
  · exact outcome_extremum (List.cons_ne_nil v [])
      (fun function wanted => extremumOf_eq function wanted taken) finds
  · exact fun many => outcome_extremum nonempty
      (fun function wanted => extremumOf_several function wanted many) finds

/-- One and two, each of them several times, as integers, doubles and a boolean. -/
def tiedNumbers : List Value :=
  [.int 0 2, .float 1 ⟨0x3ff0000000000000⟩, .bool 2 true, .int 3 1, .float 4 ⟨0x4000000000000000⟩]

/-- Of the tied numbers `max` yields the one that `sorted` puts in front in descending order. -/
theorem extremes_head_sorted_tied :
    ∃ first others, (first :: others).Perm tiedNumbers.zipIdx ∧
      (invoke "sorted" [.tuple 5 tiedNumbers, .bool 6 true]).outcome World.empty =
        (.ok (.list 0), { World.empty with
          store := (Store.empty.createList ((first :: others).map Prod.fst)).2 }) ∧
      (invoke "max" [.tuple 5 tiedNumbers]).outcome World.empty = (.ok first.1, World.empty) ∧
      (invoke "max" tiedNumbers).outcome World.empty = (.ok first.1, World.empty) := by
  have numbers : ∀ v ∈ tiedNumbers, ∃ a, Number.of? v = some a ∧ a.isNan = false := by
    intro v member
    simp only [tiedNumbers, List.mem_cons, List.not_mem_nil, or_false] at member
    rcases member with rfl | rfl | rfl | rfl | rfl <;> exact ⟨_, rfl, by decide⟩
  have held : World.empty.store.sequence? (.tuple 5 tiedNumbers) = some tiedNumbers := rfl
  have truth : (some (Value.bool 6 true)).any World.empty.store.truthy = true := rfl
  have comparable := Store.comparable_numbers (s := Store.empty) fun v member =>
    (numbers v member).imp fun _ => And.left
  obtain ⟨first, others, _, perm, _, sorts, finds, several⟩ := extremes_head_sorted held
    (List.cons_ne_nil _ _) (Store.nanFree_numbers numbers) comparable truth
  exact ⟨first, others, perm, sorts, finds, several (by decide)⟩

end Builtin

end CallConsole
