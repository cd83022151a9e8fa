/-
**The comparisons that sorting and selecting make.**

Neither a merge sort nor a search for an extreme item compares every two items. A record of the
comparisons that the sort makes shows which ones it does, and that these are enough to notice an
item that cannot be compared with the others:

* `Sorting.sortRecorded_result`: keeping the record changes nothing about the sort;
* `Sorting.sortRecorded_explains`: all comparisons are of items, and the sort fails exactly if one
  of them does;
* `Sorting.sort_settled`: neighbours in the result have been compared with each other, and stand as
  that comparison has it;
* `Sorting.sortRecorded_congr`, `Sorting.dependsOn_of_made`: the record is honest, for the sort
  depends on all comparisons in it and on no other ones;
* `Kinship.exists_sort_iff`, `Kinship.exists_select_iff`: where only kin can be compared, sorting
  and selecting succeed exactly if all items are kin.
-/

import CallConsole.Sorting
import Mathlib.Data.List.Chain

namespace CallConsole

namespace Sorting

variable {α ε : Type}

/-! ### The record of a sort -/

/-- What has become of a sequence, and the comparisons that were made. Of each comparison the item
that was asked to come before the other one is the first. -/
structure Recorded (ε α : Type) where
  result : Except ε (List α)
  made : List (α × α)

namespace Recorded

/-- A comparison is made first, and an item stands in front. -/
def behind (run : Recorded ε α) (compared : α × α) (first : α) : Recorded ε α :=
  ⟨run.result.map (first :: ·), compared :: run.made⟩

/-- What follows a result, unless the result is a failure. -/
def andThen (run : Recorded ε α) (next : List α → Recorded ε α) : Recorded ε α :=
  match run.result with
  | .error e => ⟨.error e, run.made⟩
  | .ok items => ⟨(next items).result, run.made ++ (next items).made⟩

variable {run : Recorded ε α} {next : List α → Recorded ε α}

theorem andThen_of_ok {items : List α} (done : run.result = .ok items) :
    run.andThen next = ⟨(next items).result, run.made ++ (next items).made⟩ := by
  rw [andThen, done]

theorem andThen_of_error {e : ε} (failed : run.result = .error e) :
    run.andThen next = ⟨.error e, run.made⟩ := by
  rw [andThen, failed]

/-- Two steps that succeed have both succeeded. -/
theorem exists_of_andThen_ok {items : List α} (done : (run.andThen next).result = .ok items) :
    ∃ between, run.result = .ok between ∧ (next between).result = .ok items := by
  cases first : run.result with
  | error e =>
    rw [andThen_of_error first] at done
    cases done
  | ok between =>
    rw [andThen_of_ok first] at done
    exact ⟨between, rfl, done⟩

/-- Steps that are the same as far as they are taken come to the same. -/
theorem andThen_congr {run' : Recorded ε α} {next' : List α → Recorded ε α} (first : run' = run)
    (rest : ∀ items, run.result = .ok items → next' items = next items) :
    run'.andThen next' = run.andThen next := by
  subst first
  cases result : run'.result with
  | error e => rw [andThen_of_error result, andThen_of_error result]
  | ok items => rw [andThen_of_ok result, andThen_of_ok result, rest items result]

/-- What the first of two steps compares, both compare. -/
theorem made_subset_andThen : run.made ⊆ (run.andThen next).made := by
  cases result : run.result with
  | error e =>
    rw [andThen_of_error result]
    exact List.Subset.refl _
  | ok items =>
    rw [andThen_of_ok result]
    exact List.subset_append_left _ _

theorem next_made_subset_andThen {items : List α} (done : run.result = .ok items) :
    (next items).made ⊆ (run.andThen next).made := by
  rw [andThen_of_ok done]
  exact List.subset_append_right _ _

/-- An item in front of a result is in front of its items. -/
theorem exists_of_behind_ok {compared : α × α} {first : α} {items : List α}
    (done : (run.behind compared first).result = .ok items) :
    ∃ rest, run.result = .ok rest ∧ items = first :: rest := by
  rw [behind] at done
  cases result : run.result with
  | error e =>
    rw [result] at done
    cases done
  | ok rest =>
    rw [result] at done
    cases done
    exact ⟨rest, rfl, rfl⟩

end Recorded

/-- Merging, with the record. -/
def mergeRecorded (precedes : α → α → Except ε Bool) : List α → List α → Recorded ε α
  | [], right => ⟨.ok right, []⟩
  | left, [] => ⟨.ok left, []⟩
  | l :: left, r :: right =>
    match precedes r l with
    | .error e => ⟨.error e, [(r, l)]⟩
    | .ok true => (mergeRecorded precedes (l :: left) right).behind (r, l) r
    | .ok false => (mergeRecorded precedes left (r :: right)).behind (r, l) l
termination_by left right => left.length + right.length

/-- **Merge sort, with the record.** -/
def sortRecorded (precedes : α → α → Except ε Bool) (items : List α) : Recorded ε α :=
  if _many : 2 ≤ items.length then
    (sortRecorded precedes (items.take (items.length / 2))).andThen fun left =>
      (sortRecorded precedes (items.drop (items.length / 2))).andThen fun right =>
        mergeRecorded precedes left right
  else ⟨.ok items, []⟩
termination_by items.length
decreasing_by
  · simp only [List.length_take]; omega
  · simp only [List.length_drop]; omega

variable {precedes : α → α → Except ε Bool}

theorem mergeRecorded_result (left right : List α) :
    (mergeRecorded precedes left right).result = merge precedes left right := by
  fun_induction mergeRecorded precedes left right with
  | case1 right => rw [merge]
  | case2 left some => rw [merge]; exact some
  | case3 l left r right e asked => rw [merge, asked]
  | case4 l left r right asked ih =>
    rw [merge, asked, ← ih]
    rfl
  | case5 l left r right asked ih =>
    rw [merge, asked, ← ih]
    rfl

/-- **Keeping the record changes nothing about the sort.** -/
theorem sortRecorded_result (items : List α) :
    (sortRecorded precedes items).result = sort precedes items := by
  fun_induction sortRecorded precedes items with
  | case1 items many front back =>
    rw [sort, dif_pos many, ← front, ← back]
    cases first : (sortRecorded precedes (items.take (items.length / 2))).result with
    | error e => rw [Recorded.andThen_of_error first]
    | ok left =>
      rw [Recorded.andThen_of_ok first]
      cases second : (sortRecorded precedes (items.drop (items.length / 2))).result with
      | error e => rw [Recorded.andThen_of_error second]
      | ok right =>
        rw [Recorded.andThen_of_ok second]
        exact mergeRecorded_result left right
  | case2 items few => rw [sort, dif_neg few]

/-! ### Which comparisons are made -/

/-- **The record explains the result**: what was compared has the property, a result comes of
comparisons that all succeeded, and a failure is one of a comparison. -/
structure Explains (precedes : α → α → Except ε Bool) (P : α → Prop) (run : Recorded ε α) :
    Prop where
  among : ∀ c ∈ run.made, P c.1 ∧ P c.2
  answered : ∀ items, run.result = .ok items →
    ∀ c ∈ run.made, ∃ answer, precedes c.1 c.2 = .ok answer
  failed : ∀ e, run.result = .error e → ∃ c ∈ run.made, precedes c.1 c.2 = .error e

variable {P : α → Prop} {run : Recorded ε α}

/-- A result without comparisons needs no explanation. -/
theorem explains_nothing (items : List α) : Explains precedes P ⟨.ok items, []⟩ := by
  refine ⟨fun c member => ?_, fun _ _ c member => ?_, fun e failed => ?_⟩
  · cases member
  · cases member
  · cases failed

theorem Explains.behind (explains : Explains precedes P run) {x y first : α} (hx : P x) (hy : P y)
    {answer : Bool} (asked : precedes x y = .ok answer) :
    Explains precedes P (run.behind (x, y) first) where
  among := List.forall_mem_cons.mpr ⟨⟨hx, hy⟩, explains.among⟩
  answered items done := by
    obtain ⟨rest, done, _⟩ := Recorded.exists_of_behind_ok done
    exact List.forall_mem_cons.mpr ⟨⟨answer, asked⟩, explains.answered rest done⟩
  failed e failed := by
    cases result : run.result with
    | ok items =>
      rw [Recorded.behind, result] at failed
      cases failed
    | error e' =>
      rw [Recorded.behind, result] at failed
      cases failed
      obtain ⟨c, member, cause⟩ := explains.failed e result
      exact ⟨c, .tail _ member, cause⟩

theorem Explains.andThen (explains : Explains precedes P run) {next : List α → Recorded ε α}
    (rest : ∀ items, run.result = .ok items → Explains precedes P (next items)) :
    Explains precedes P (run.andThen next) := by
  cases result : run.result with
  | error e =>
    rw [Recorded.andThen_of_error result]
    refine ⟨explains.among, fun items done => ?_, fun e' failed => ?_⟩
    · cases done
    · cases failed
      exact explains.failed e result
  | ok items =>
    have goesOn := rest items result
    rw [Recorded.andThen_of_ok result]
    refine ⟨?_, fun items' done => ?_, fun e failed => ?_⟩
    · exact List.forall_mem_append.mpr ⟨explains.among, goesOn.among⟩
    · exact List.forall_mem_append.mpr ⟨explains.answered items result, goesOn.answered items' done⟩
    · obtain ⟨c, member, cause⟩ := goesOn.failed e failed
      exact ⟨c, List.mem_append_right _ member, cause⟩

theorem mergeRecorded_explains {left right : List α} (first : ∀ x ∈ left, P x)
    (second : ∀ x ∈ right, P x) : Explains precedes P (mergeRecorded precedes left right) := by
  fun_induction mergeRecorded precedes left right with
  | case1 right => exact explains_nothing right
  | case2 left => exact explains_nothing left
  | case3 l left r right e asked =>
    have compared := And.intro (second r List.mem_cons_self) (first l List.mem_cons_self)
    refine ⟨fun c member => ?_, fun _ done => ?_, fun e' failed => ?_⟩
    · cases List.mem_singleton.mp member
      exact compared
    · cases done
    · cases failed
      exact ⟨(r, l), List.mem_singleton_self _, asked⟩
  | case4 l left r right asked ih =>
    have rest := ih first (List.forall_mem_cons.mp second).2
    exact rest.behind (second r List.mem_cons_self) (first l List.mem_cons_self) asked
  | case5 l left r right asked ih =>
    have rest := ih (List.forall_mem_cons.mp first).2 second
    exact rest.behind (second r List.mem_cons_self) (first l List.mem_cons_self) asked

/-- **A sort compares items only, and fails exactly if a comparison does.** -/
theorem sortRecorded_explains {items : List α} (all : ∀ x ∈ items, P x) :
    Explains precedes P (sortRecorded precedes items) := by
  fun_induction sortRecorded precedes items with
  | case1 items many front back =>
    have first : ∀ x ∈ items.take (items.length / 2), P x :=
      fun x member => all x (List.mem_of_mem_take member)
    have second : ∀ x ∈ items.drop (items.length / 2), P x :=
      fun x member => all x (List.mem_of_mem_drop member)
    -- sorting a half moves its items only
    have kept {half sorted : List α} (holds : ∀ x ∈ half, P x)
        (done : (sortRecorded precedes half).result = .ok sorted) : ∀ x ∈ sorted, P x := by
      rw [sortRecorded_result] at done
      exact fun x member => holds x ((sort_perm done).mem_iff.mp member)
    refine (front first).andThen fun left doneL => (back second).andThen fun right doneR => ?_
    exact mergeRecorded_explains (kept first doneL) (kept second doneR)
  | case2 items few => exact explains_nothing items

/-! ### Neighbours -/

/-- **Two items were compared, and stand as the comparison has it**: the second one was asked to
come before the first one and need not, or the first one was asked and must. -/
inductive Settled (precedes : α → α → Except ε Bool) (made : List (α × α)) : α → α → Prop
  | stays {a b : α} : (b, a) ∈ made → precedes b a = .ok false → Settled precedes made a b
  | moves {a b : α} : (a, b) ∈ made → precedes a b = .ok true → Settled precedes made a b

theorem Settled.mono {made more : List (α × α)} (subset : made ⊆ more) {a b : α}
    (settled : Settled precedes made a b) : Settled precedes more a b := by
  cases settled with
  | stays member answer => exact .stays (subset member) answer
  | moves member answer => exact .moves (subset member) answer

/-- What merging yields first was the first item of one of the runs. -/
theorem head?_mergeRecorded {left right merged : List α}
    (done : (mergeRecorded precedes left right).result = .ok merged) :
    ∀ y ∈ merged.head?, y ∈ left.head? ∨ y ∈ right.head? := by
  intro y first
  fun_cases mergeRecorded precedes left right with
  | case1 right =>
    rw [mergeRecorded] at done
    cases done
    exact .inr first
  | case2 left some =>
    rw [mergeRecorded] at done
    · cases done
      exact .inl first
    · exact some
  | case3 l left r right e asked =>
    rw [mergeRecorded, asked] at done
    cases done
  | case4 l left r right asked =>
    rw [mergeRecorded, asked] at done
    obtain ⟨rest, _, rfl⟩ := Recorded.exists_of_behind_ok done
    exact .inr first
  | case5 l left r right asked =>
    rw [mergeRecorded, asked] at done
    obtain ⟨rest, _, rfl⟩ := Recorded.exists_of_behind_ok done
    exact .inl first

/-- **Neighbours in a merged sequence were neighbours in a run, or are settled by the merging**:
where the next item comes from the other run, it was the one compared. -/
theorem merge_chain {R : α → α → Prop} {left right merged : List α}
    (done : (mergeRecorded precedes left right).result = .ok merged) (first : left.IsChain R)
    (second : right.IsChain R)
    (settled : ∀ a b, Settled precedes (mergeRecorded precedes left right).made a b → R a b) :
    merged.IsChain R := by
  fun_induction mergeRecorded precedes left right generalizing merged with
  | case1 right =>
    cases done
    exact second
  | case2 left =>
    cases done
    exact first
  | case3 => cases done
  | case4 l left r right asked ih =>
    obtain ⟨rest, others, rfl⟩ := Recorded.exists_of_behind_ok done
    obtain ⟨firstR, second⟩ := List.isChain_cons.mp second
    refine List.isChain_cons.mpr ⟨fun y head => ?_, ?_⟩
    · rcases head?_mergeRecorded others y head with own | other
      · cases own
        exact settled r l (.moves List.mem_cons_self asked)
      · exact firstR y other
    · exact ih others first second fun a b earlier =>
        settled a b (earlier.mono (List.subset_cons_self _ _))
  | case5 l left r right asked ih =>
    obtain ⟨rest, others, rfl⟩ := Recorded.exists_of_behind_ok done
    obtain ⟨firstL, first⟩ := List.isChain_cons.mp first
    refine List.isChain_cons.mpr ⟨fun y head => ?_, ?_⟩
    · rcases head?_mergeRecorded others y head with own | other
      · exact firstL y own
      · cases other
        exact settled l r (.stays List.mem_cons_self asked)
    · exact ih others first second fun a b earlier =>
        settled a b (earlier.mono (List.subset_cons_self _ _))

/-- **Neighbours in a sorted sequence have been compared with each other**, whatever the answers
are. -/
theorem sort_settled {items sorted : List α}
    (done : (sortRecorded precedes items).result = .ok sorted) :
    sorted.IsChain (Settled precedes (sortRecorded precedes items).made) := by
  fun_induction sortRecorded precedes items generalizing sorted with
  | case1 items many front back =>
    obtain ⟨left, doneL, done⟩ := Recorded.exists_of_andThen_ok done
    obtain ⟨right, doneR, done⟩ := Recorded.exists_of_andThen_ok done
    refine merge_chain done ((front doneL).imp fun a b => ?_) ((back doneR).imp fun a b => ?_)
      fun a b => ?_
    · exact Settled.mono Recorded.made_subset_andThen
    · exact Settled.mono fun c member =>
        Recorded.next_made_subset_andThen doneL (Recorded.made_subset_andThen member)
    · exact Settled.mono fun c member =>
        Recorded.next_made_subset_andThen doneL (Recorded.next_made_subset_andThen doneR member)
  | case2 items few =>
    cases done
    match items with
    | [] => exact .nil
    | [a] => exact .singleton a
    | _ :: _ :: _ => simp at few

/-- A sort that fails does so because two of the items cannot be compared. -/
theorem exists_of_sort_error {items : List α} {e : ε} (failed : sort precedes items = .error e) :
    ∃ x ∈ items, ∃ y ∈ items, precedes x y = .error e := by
  have explains : Explains precedes (· ∈ items) (sortRecorded precedes items) :=
    sortRecorded_explains fun x member => member
  obtain ⟨c, made, cause⟩ := explains.failed e (by rw [sortRecorded_result, failed])
  obtain ⟨first, second⟩ := explains.among c made
  exact ⟨c.1, first, c.2, second, cause⟩

/-! ### The record is honest -/

/-- **The sort depends on a comparison**: if that one failed, and nothing else were different, the
sort would fail. -/
def DependsOn (precedes : α → α → Except ε Bool) (items : List α) (c : α × α) : Prop :=
  ∀ (asks : α → α → Except ε Bool) (e : ε), asks c.1 c.2 = .error e →
    (∀ d, d ≠ c → asks d.1 d.2 = precedes d.1 d.2) → ∃ e', sort asks items = .error e'

section Honest

variable {asks : α → α → Except ε Bool}

theorem mergeRecorded_congr {left right : List α}
    (same : ∀ c ∈ (mergeRecorded precedes left right).made, asks c.1 c.2 = precedes c.1 c.2) :
    mergeRecorded asks left right = mergeRecorded precedes left right := by
  fun_induction mergeRecorded precedes left right with
  | case1 right => rw [mergeRecorded]
  | case2 left some =>
    rw [mergeRecorded]
    exact some
  | case3 l left r right e answer =>
    have first : asks r l = precedes r l := same (r, l) (List.mem_singleton_self _)
    rw [mergeRecorded, first, answer]
  | case4 l left r right answer ih =>
    obtain ⟨first, rest⟩ := List.forall_mem_cons.mp same
    rw [mergeRecorded, show asks r l = precedes r l from first, answer, ← ih rest]
  | case5 l left r right answer ih =>
    obtain ⟨first, rest⟩ := List.forall_mem_cons.mp same
    rw [mergeRecorded, show asks r l = precedes r l from first, answer, ← ih rest]

/-- **A sort knows no more than its record**: whoever answers the comparisons in it alike gets the
same run. -/
theorem sortRecorded_congr {items : List α}
    (same : ∀ c ∈ (sortRecorded precedes items).made, asks c.1 c.2 = precedes c.1 c.2) :
    sortRecorded asks items = sortRecorded precedes items := by
  fun_induction sortRecorded precedes items with
  | case1 items many front back =>
    rw [sortRecorded, dif_pos many]
    have first := front fun c member => same c (Recorded.made_subset_andThen member)
    refine Recorded.andThen_congr first fun left doneL => ?_
    have rest := fun c member => same c (Recorded.next_made_subset_andThen doneL member)
    have second := back fun c member => rest c (Recorded.made_subset_andThen member)
    refine Recorded.andThen_congr second fun right doneR => ?_
    exact mergeRecorded_congr fun c member =>
      rest c (Recorded.next_made_subset_andThen doneR member)
  | case2 items few => rw [sortRecorded, dif_neg few]

/-- **A sort depends on every comparison in its record.** -/
theorem dependsOn_of_made {items : List α} {c : α × α}
    (made : c ∈ (sortRecorded precedes items).made) : DependsOn precedes items c := by
  intro asks e refused others
  cases ended : sort asks items with
  | error e' => exact ⟨e', rfl⟩
  | ok sorted =>
    have explains : Explains asks (fun _ => True) (sortRecorded asks items) :=
      sortRecorded_explains fun _ _ => trivial
    have answered := explains.answered sorted (by rw [sortRecorded_result, ended])
    have unasked : c ∉ (sortRecorded asks items).made := by
      intro member
      obtain ⟨answer, asked⟩ := answered c member
      rw [refused] at asked
      cases asked
    -- without that comparison the two runs are the same
    have same : sortRecorded precedes items = sortRecorded asks items :=
      sortRecorded_congr fun d member =>
        (others d fun equal => unasked (equal ▸ member)).symm
    exact absurd (same ▸ made) unasked

end Honest

/-! ### Selecting -/

/-- **The first of the items that no later one beats**, searched from left to right. -/
def select (beats : α → α → Except ε Bool) : α → List α → Except ε α
  | best, [] => .ok best
  | best, x :: rest =>
    match beats x best with
    | .error e => .error e
    | .ok true => select beats x rest
    | .ok false => select beats best rest

/-- A search that fails does so because two of the items cannot be compared. -/
theorem exists_of_select_error {beats : α → α → Except ε Bool} {best : α} {rest : List α} {e : ε}
    (failed : select beats best rest = .error e) :
    ∃ x ∈ best :: rest, ∃ y ∈ best :: rest, beats x y = .error e := by
  fun_induction select beats best rest with
  | case1 best => cases failed
  | case2 best x rest e' asked =>
    cases failed
    exact ⟨x, .tail _ List.mem_cons_self, best, List.mem_cons_self, asked⟩
  | case3 best x rest asked ih =>
    obtain ⟨y, first, z, second, cause⟩ := ih failed
    exact ⟨y, .tail _ first, z, .tail _ second, cause⟩
  | case4 best x rest asked ih =>
    have skips : best :: rest ⊆ best :: x :: rest :=
      List.cons_subset_cons best (List.subset_cons_self x rest)
    obtain ⟨y, first, z, second, cause⟩ := ih failed
    exact ⟨y, skips first, z, skips second, cause⟩

end Sorting

/-! ### Kin -/

/-- **Only kin can be compared**: of things with the property, those that can be compared are the
ones that are kin, and kinship passes on. -/
structure Kinship {α ε : Type} (ask : α → α → Except ε Bool) (P : α → Prop)
    (Kin : α → α → Prop) : Prop where
  symm {a b : α} : Kin a b → Kin b a
  trans {a b c : α} : Kin a b → Kin b c → Kin a c
  answers {a b : α} : P a → P b → ((∃ answer, ask a b = .ok answer) ↔ Kin a b)

namespace Kinship

open Sorting

variable {α ε : Type} {ask : α → α → Except ε Bool} {P : α → Prop} {Kin : α → α → Prop}
  {items : List α}

/-- The kin of one thing are kin of each other. -/
theorem all_of_one (kinship : Kinship ask P Kin) {a : α} (linked : ∀ x ∈ items, Kin a x) :
    ∀ x ∈ items, ∀ y ∈ items, Kin x y := by
  intro x first y second
  exact kinship.trans (kinship.symm (linked x first)) (linked y second)

/-- Neighbours that are kin make all of a sequence kin, from two items on. -/
theorem all_of_chain (kinship : Kinship ask P Kin) (chain : items.IsChain Kin)
    (many : 2 ≤ items.length) : ∀ x ∈ items, ∀ y ∈ items, Kin x y := by
  match items with
  | a :: b :: rest =>
    have : Trans Kin Kin Kin := ⟨kinship.trans⟩
    have next : Kin a b := chain.rel_cons List.mem_cons_self
    refine kinship.all_of_one (a := a) (List.forall_mem_cons.mpr ⟨?_, fun x => chain.rel_cons⟩)
    exact kinship.trans next (kinship.symm next)

/-- Among kin nothing fails that only fails as a comparison does. -/
theorem exists_ok {β : Type} (kinship : Kinship ask P Kin) (all : ∀ x ∈ items, P x)
    (kin : ∀ x ∈ items, ∀ y ∈ items, Kin x y) {result : Except ε β}
    (blamed : ∀ e, result = .error e → ∃ x ∈ items, ∃ y ∈ items, ask x y = .error e) :
    ∃ b, result = .ok b := by
  cases result with
  | ok b => exact ⟨b, rfl⟩
  | error e =>
    obtain ⟨x, first, y, second, failed⟩ := blamed e rfl
    obtain ⟨answer, asked⟩ := (kinship.answers (all x first) (all y second)).mpr
      (kin x first y second)
    rw [failed] at asked
    cases asked

/-- **A sort notices every item that is not kin of the others**, wherever it stands: its neighbours
in the result would have been compared with it. -/
theorem exists_sort_iff (kinship : Kinship ask P Kin) (all : ∀ x ∈ items, P x)
    (many : 2 ≤ items.length) :
    (∃ sorted, sort ask items = .ok sorted) ↔ ∀ x ∈ items, ∀ y ∈ items, Kin x y := by
  constructor
  · rintro ⟨sorted, done⟩
    have perm := sort_perm done
    rw [← sortRecorded_result] at done
    have explains : Explains ask P (sortRecorded ask items) := sortRecorded_explains all
    have kin : ∀ a b, Settled ask (sortRecorded ask items).made a b → Kin a b := by
      intro a b settled
      cases settled with
      | stays made answer =>
        obtain ⟨later, earlier⟩ := explains.among _ made
        exact kinship.symm ((kinship.answers later earlier).mp ⟨_, answer⟩)
      | moves made answer =>
        obtain ⟨later, earlier⟩ := explains.among _ made
        exact (kinship.answers later earlier).mp ⟨_, answer⟩
    have related := kinship.all_of_chain ((sort_settled done).imp kin) (perm.length_eq ▸ many)
    exact fun x first y second =>
      related x (perm.mem_iff.mpr first) y (perm.mem_iff.mpr second)
  · exact fun kin => kinship.exists_ok all kin fun e => exists_of_sort_error

/-- All items that a search has come across are kin of the first one. -/
theorem linked_of_select (kinship : Kinship ask P Kin) {best found : α} {rest : List α}
    (first : P best) (all : ∀ x ∈ rest, P x) (done : select ask best rest = .ok found) :
    ∀ x ∈ rest, Kin best x := by
  fun_induction select ask best rest with
  | case1 best => exact fun x member => nomatch member
  | case2 => cases done
  | case3 best x rest asked ih =>
    obtain ⟨second, all⟩ := List.forall_mem_cons.mp all
    have kin := kinship.symm ((kinship.answers second first).mp ⟨_, asked⟩)
    exact List.forall_mem_cons.mpr
      ⟨kin, fun y member => kinship.trans kin (ih second all done y member)⟩
  | case4 best x rest asked ih =>
    obtain ⟨second, all⟩ := List.forall_mem_cons.mp all
    have kin := kinship.symm ((kinship.answers second first).mp ⟨_, asked⟩)
    exact List.forall_mem_cons.mpr ⟨kin, ih first all done⟩

/-- **A search notices every item that is not kin of the others.** -/
theorem exists_select_iff (kinship : Kinship ask P Kin) {best : α} {rest : List α}
    (all : ∀ x ∈ best :: rest, P x) (many : rest ≠ []) :
    (∃ found, select ask best rest = .ok found) ↔
      ∀ x ∈ best :: rest, ∀ y ∈ best :: rest, Kin x y := by
  constructor
  · rintro ⟨found, done⟩
    obtain ⟨first, others⟩ := List.forall_mem_cons.mp all
    have linked := kinship.linked_of_select first others done
    obtain ⟨x, rest, rfl⟩ := List.exists_cons_of_ne_nil many
    have next := linked x List.mem_cons_self
    exact kinship.all_of_one
      (List.forall_mem_cons.mpr ⟨kinship.trans next (kinship.symm next), linked⟩)
  · exact fun kin => kinship.exists_ok all kin fun e => exists_of_select_error

end Kinship

end CallConsole
