/-
**How deep a comparison goes.**

A comparison goes into the lists and tuples that decide it, and into `depthLimit` of them inside one
another at most. If one of the two values holds itself nowhere, there is a depth that the comparison
needs: the answer is the same within every limit from there on, and within every smaller one the
comparison is cut off. So values that hold themselves nowhere meet the limit too, once they nest
deep enough:

* `exists_settles`: values that nest so deep need no more than this depth;
* `Acyclic.exists_nestsWithin`: a value that holds itself nowhere nests so deep at most;
* `compare_limit_exact`: the comparison answers exactly if the depth that it needs is within the
  limit;
* `compare_nested_too_deep`: tuples that nest one deeper than the limit are not compared.
-/

import CallConsole.Builtin.Argument
import CallConsole.Proofs.ConsistentOrder
import CallConsole.Proofs.Unfolding

namespace CallConsole

/-- **The order needs exactly this depth for the answer**, which is an order or that there is none:
within every limit from there on it gives the answer, and within every smaller one it is cut off. -/
structure Settles (order : Nat → Except Cause Ordering) (depth : Nat)
    (answer : Except Cause Ordering) : Prop where
  answers : (∃ o, answer = .ok o) ∨ ∃ t u, answer = .error (.incomparable t u)
  within : ∀ limit, order limit = if depth ≤ limit then answer else .error .comparisonTooDeep

namespace Settles

variable {order : Nat → Except Cause Ordering} {depth depth' : Nat}
  {answer answer' : Except Cause Ordering}

/-- An answer is not that the comparison was cut off. -/
theorem ne_tooDeep (settles : Settles order depth answer) : answer ≠ .error .comparisonTooDeep := by
  rcases settles.answers with ⟨o, rfl⟩ | ⟨t, u, rfl⟩ <;> exact nofun

/-- What is answered without going anywhere needs no depth. -/
theorem constant (answers : (∃ o, answer = .ok o) ∨ ∃ t u, answer = .error (.incomparable t u)) :
    Settles (fun _ => answer) 0 answer :=
  ⟨answers, fun limit => (if_pos (Nat.zero_le limit)).symm⟩

/-- **Only one depth is the one that is needed.** -/
theorem depth_unique (first : Settles order depth answer) (second : Settles order depth' answer') :
    depth = depth' := by
  have at_least {d d' : Nat} {a a' : Except Cause Ordering} (first : Settles order d a)
      (second : Settles order d' a') : d' ≤ d := by
    by_contra less
    have cut := second.within d
    rw [first.within d, if_pos (Nat.le_refl d), if_neg less] at cut
    exact first.ne_tooDeep cut
  exact Nat.le_antisymm (at_least second first) (at_least first second)

end Settles

namespace Store

variable {s : Store} {a b : Value} {xs ys : List Value} {n : Nat}

/-! ### Nesting -/

/-- **Lists and tuples nest so deep in the value at most**, one inside the other. -/
inductive NestsWithin (s : Store) : Nat → Value → Prop
  | flat {n : Nat} {v : Value} : s.sequence? v = none → NestsWithin s n v
  | nest {n : Nat} {v : Value} {items : List Value} : s.sequence? v = some items →
      (∀ x ∈ items, NestsWithin s n x) → NestsWithin s (n + 1) v

theorem NestsWithin.mono {v : Value} (nests : s.NestsWithin n v) {m : Nat} (le : n ≤ m) :
    s.NestsWithin m v := by
  induction nests generalizing m with
  | flat plain => exact .flat plain
  | nest held _ ih =>
    obtain ⟨m, rfl⟩ := Nat.exists_eq_add_of_lt (Nat.lt_of_lt_of_le (Nat.succ_pos _) le)
    rw [Nat.zero_add] at le ⊢
    exact .nest held fun x member => ih x member (Nat.le_of_succ_le_succ le)

/-- The items of a list or tuple nest one less deep. -/
theorem NestsWithin.items {v : Value} (nests : s.NestsWithin (n + 1) v) {items : List Value}
    (held : s.sequence? v = some items) : ∀ x ∈ items, s.NestsWithin n x := by
  cases nests with
  | flat plain =>
    rw [plain] at held
    cases held
  | nest held' inside =>
    rw [held'] at held
    cases held
    exact inside

/-- Values that each nest only so deep nest only so deep together. -/
theorem exists_nestsWithin_all (each : ∀ x ∈ xs, ∃ n, s.NestsWithin n x) :
    ∃ n, ∀ x ∈ xs, s.NestsWithin n x := by
  induction xs with
  | nil => exact ⟨0, fun _ member => absurd member List.not_mem_nil⟩
  | cons x xs ih =>
    obtain ⟨⟨n, first⟩, others⟩ := List.forall_mem_cons.mp each
    obtain ⟨m, rest⟩ := ih others
    refine ⟨max n m, List.forall_mem_cons.mpr ⟨first.mono (Nat.le_max_left n m), ?_⟩⟩
    exact fun y member => (rest y member).mono (Nat.le_max_right n m)

/-- A list or tuple holds its items. -/
theorem holds_of_sequence {v : Value} (held : s.sequence? v = some xs) {x : Value}
    (member : x ∈ xs) : s.Holds v x := by
  cases v with
  | list place =>
    cases held
    exact .item (Array.mem_toList_iff.mp member)
  | tuple id items =>
    cases held
    exact .element member
  | _ => cases held

/-- **A value that holds itself nowhere nests only so deep.** -/
theorem Acyclic.exists_nestsWithin {v : Value} (acyclic : s.Acyclic v) :
    ∃ n, s.NestsWithin n v := by
  induction acyclic.acc with
  | intro v _ ih =>
    cases held : s.sequence? v with
    | none => exact ⟨0, .flat held⟩
    | some items =>
      obtain ⟨n, inside⟩ := exists_nestsWithin_all fun x member =>
        ih x (holds_of_sequence held member) (acyclic.of_holds (holds_of_sequence held member))
      exact ⟨n + 1, .nest held inside⟩

/-- A value is acyclic if all that it holds is. -/
theorem acyclic_of_forall {v : Value} (held : ∀ w, s.Holds v w → s.Acyclic w) : s.Acyclic v := by
  intro u reached cycle
  rcases reached.cases_head with rfl | ⟨w, holds, rest⟩
  · -- the cycle goes through something held, which is acyclic
    obtain ⟨w, holds, rest⟩ := Relation.TransGen.head'_iff.mp cycle
    exact held w holds v rest cycle
  · exact held w holds u rest cycle

/-! ### The depth that is needed -/

/-- Values that are no two lists and no two tuples are compared without going into them. -/
theorem exists_compareWith_eq (apart : ¬ ∃ xs ys, s.Sequences a b xs ys) :
    ∃ answer, ((∃ o, answer = .ok o) ∨ ∃ t u, answer = .error (.incomparable t u)) ∧
      ∀ items, s.compareWith items a b = answer := by
  by_cases numbers : ∃ m n, Number.of? a = some m ∧ Number.of? b = some n
  · obtain ⟨m, n, first, second⟩ := numbers
    refine ⟨.ok ((m.order? n).getD .eq), .inl ⟨_, rfl⟩, fun items => ?_⟩
    simp only [compareWith, first, second]
  by_cases texts : ∃ i t j u, a = .str i t ∧ b = .str j u
  · obtain ⟨i, t, j, u, rfl, rfl⟩ := texts
    exact ⟨_, .inl ⟨_, rfl⟩, fun _ => rfl⟩
  refine ⟨.error (.incomparable a.type b.type), .inr ⟨_, _, rfl⟩, fun items => ?_⟩
  unfold compareWith
  split
  case h_1 m n first second => exact absurd ⟨m, n, first, second⟩ numbers
  case h_2 =>
    split
    case h_1 => exact absurd ⟨_, _, _, _, rfl, rfl⟩ texts
    case h_2 => exact absurd ⟨_, _, .lists _ _⟩ apart
    case h_3 => exact absurd ⟨_, _, .tuples _ _ _ _⟩ apart
    case h_4 => rfl

/-- **Sequences need as much depth as those of their items that are compared.** -/
theorem exists_settles_items
    (each : ∀ x ∈ xs, ∀ y ∈ ys, ∃ depth ≤ n, ∃ answer,
      Settles (s.compareWithin · x y) depth answer) :
    ∃ depth ≤ n, ∃ answer,
      Settles (fun limit => compareItems s.equal (s.compareWithin limit) xs ys) depth answer := by
  induction xs generalizing ys with
  | nil =>
    simp only [compareItems_nil_left]
    exact ⟨0, Nat.zero_le n, _, .constant (.inl ⟨_, rfl⟩)⟩
  | cons x xs ih =>
    cases ys with
    | nil =>
      simp only [compareItems_nil_right]
      exact ⟨0, Nat.zero_le n, _, .constant (.inl ⟨_, rfl⟩)⟩
    | cons y ys =>
      obtain ⟨rest, fits, answer, settles⟩ := ih fun x' member y' member' =>
        each x' (.tail x member) y' (.tail y member')
      by_cases equal : s.equal x y = true
      · simp only [compareItems_of_equal equal]
        exact ⟨rest, fits, answer, settles⟩
      obtain ⟨first, fits', ranked, ranks⟩ := each x List.mem_cons_self y List.mem_cons_self
      simp only [compareItems, if_neg equal, ranks.within]
      by_cases tied : ranked = .ok .eq
      · -- a tie is passed over, so that both the first items and the rest are compared
        refine ⟨max first rest, Nat.max_le.mpr ⟨fits', fits⟩, answer, settles.answers, ?_⟩
        intro limit
        rw [tied]
        by_cases reached : first ≤ limit
        · simp only [settles.within, Nat.max_le, reached, true_and, ↓reduceIte]
        · simp only [Nat.max_le, reached, false_and, ↓reduceIte]
      · refine ⟨first, fits', ranked, ranks.answers, fun limit => ?_⟩
        by_cases reached : first ≤ limit
        · simp only [if_pos reached]
          rcases ranks.answers with ⟨o, rfl⟩ | ⟨t, u, rfl⟩
          · cases o with
            | eq => exact absurd rfl tied
            | lt | gt => rfl
          · rfl
        · simp only [if_neg reached]

/-- Two lists or tuples need one depth more than their items. -/
theorem Sequences.settles {depth : Nat} {answer : Except Cause Ordering}
    (held : s.Sequences a b xs ys)
    (settles : Settles (fun limit => compareItems s.equal (s.compareWithin limit) xs ys) depth
      answer) : Settles (s.compareWithin · a b) (depth + 1) answer where
  answers := settles.answers
  within limit := by
    cases limit with
    | zero => exact held.compareWith_eq
    | succ limit =>
      rw [compareWithin, held.compareWith_eq, settles.within limit]
      simp only [Nat.add_le_add_iff_right]

/-- Other values need none. -/
theorem exists_settles_of_apart (apart : ¬ ∃ xs ys, s.Sequences a b xs ys) :
    ∃ answer, Settles (s.compareWithin · a b) 0 answer := by
  obtain ⟨answer, answers, given⟩ := exists_compareWith_eq apart
  refine ⟨answer, answers, fun limit => ?_⟩
  rw [if_pos (Nat.zero_le limit)]
  cases limit <;> exact given _

theorem Sequences.sequence_eq (held : s.Sequences a b xs ys) :
    s.sequence? a = some xs ∧ s.sequence? b = some ys := by
  cases held <;> exact ⟨rfl, rfl⟩

/-- **Of two values one of which nests only so deep, no greater depth is needed.** -/
theorem exists_settles (nests : s.NestsWithin n a ∨ s.NestsWithin n b) :
    ∃ depth ≤ n, ∃ answer, Settles (s.compareWithin · a b) depth answer := by
  induction n generalizing a b with
  | zero =>
    have apart : ¬ ∃ xs ys, s.Sequences a b xs ys := by
      rintro ⟨xs, ys, held⟩
      obtain ⟨first, second⟩ := held.sequence_eq
      rcases nests with nests | nests
      · cases nests with | flat plain => rw [plain] at first; cases first
      · cases nests with | flat plain => rw [plain] at second; cases second
    exact ⟨0, Nat.le_refl 0, exists_settles_of_apart apart⟩
  | succ n ih =>
    by_cases sequences : ∃ xs ys, s.Sequences a b xs ys
    · obtain ⟨xs, ys, held⟩ := sequences
      obtain ⟨first, second⟩ := held.sequence_eq
      have each : ∀ x ∈ xs, ∀ y ∈ ys, s.NestsWithin n x ∨ s.NestsWithin n y := by
        intro x member y member'
        exact nests.imp (fun nests => nests.items first x member)
          fun nests => nests.items second y member'
      obtain ⟨depth, fits, answer, settles⟩ := exists_settles_items fun x member y member' =>
        ih (each x member y member')
      exact ⟨depth + 1, Nat.succ_le_succ fits, answer, held.settles settles⟩
    · exact ⟨0, Nat.zero_le _, exists_settles_of_apart sequences⟩

/-- **The comparison is cut off exactly if it needs more depth than there is.** For two values of
which one holds itself nowhere there is one depth that their comparison needs, and one answer, which
is an order or that the types have none. Within every limit from this depth on the answer is given,
within every smaller limit the comparison fails for want of depth, and the limit is two hundred. The
depth is no greater than that to which lists and tuples nest in either value. -/
theorem compare_limit_exact (acyclic : s.Acyclic a ∨ s.Acyclic b) :
    ∃ depth answer, ((∃ o, answer = .ok o) ∨ ∃ t u, answer = .error (.incomparable t u)) ∧
      (∀ limit, s.compareWithin limit a b =
        if depth ≤ limit then answer else .error .comparisonTooDeep) ∧
      s.compare a b = (if depth ≤ 200 then answer else .error .comparisonTooDeep) ∧
      ∀ n, s.NestsWithin n a ∨ s.NestsWithin n b → depth ≤ n := by
  have nests : ∃ n, s.NestsWithin n a ∨ s.NestsWithin n b := by
    rcases acyclic with acyclic | acyclic
    · exact acyclic.exists_nestsWithin.imp fun _ => .inl
    · exact acyclic.exists_nestsWithin.imp fun _ => .inr
  obtain ⟨n, nests⟩ := nests
  obtain ⟨depth, _, answer, settles⟩ := exists_settles nests
  refine ⟨depth, answer, settles.answers, settles.within, settles.within depthLimit, ?_⟩
  intro m nests
  obtain ⟨depth', fits, _, settles'⟩ := exists_settles nests
  exact settles.depth_unique settles' ▸ fits

/-- A list that holds itself, and one that holds a list of one. -/
def coiledStore : Store where
  lists := #[#[.list 0], #[.list 2], #[.int 0 1]]
  dicts := #[]
  next := 1

/-- The second list holds itself nowhere, so the first one is compared with it and not cut off. -/
theorem compare_limit_exact_coiled :
    coiledStore.Acyclic (.list 1) ∧ coiledStore.NestsWithin 2 (.list 1) ∧
      ∀ cause, coiledStore.compare (.list 0) (.list 1) = .error cause →
        cause.kind = .typeMismatch := by
  have acyclic : coiledStore.Acyclic (.list 1) := by
    refine acyclic_of_forall fun v outer => acyclic_of_forall fun w inner => ?_
    cases outer with
    | item member =>
      cases Array.mem_singleton.mp member
      cases inner with
      | item member =>
        cases Array.mem_singleton.mp member
        exact acyclic_of_forall fun u none => by cases none
  have nests : coiledStore.NestsWithin 2 (.list 1) := by
    refine .nest rfl (List.forall_mem_singleton.mpr ?_)
    refine .nest rfl (List.forall_mem_singleton.mpr ?_)
    exact .flat rfl
  refine ⟨acyclic, nests, fun cause failed => ?_⟩
  obtain ⟨depth, answer, answers, _, compared, bound⟩ :=
    compare_limit_exact (a := .list 0) (.inr acyclic)
  have within : depth ≤ 2 := bound 2 (.inr nests)
  rw [compared, if_pos (by omega)] at failed
  rcases answers with ⟨o, rfl⟩ | ⟨t, u, rfl⟩
  · cases failed
  · cases failed
    rfl

/-! ### Beyond the limit -/

/-- The value inside so many tuples of one item, the inner ones made first. -/
def nested (first : Nat) : Nat → Value → Value
  | 0, v => v
  | count + 1, v => .tuple (first + count) [nested first count v]

theorem acyclic_nested {v : Value} (acyclic : s.Acyclic v) (first count : Nat) :
    s.Acyclic (nested first count v) := by
  induction count with
  | zero => exact acyclic
  | succ count ih =>
    refine acyclic_of_forall fun w holds => ?_
    cases holds with
    | element member =>
      rw [List.mem_singleton.mp member]
      exact ih

/-- Tuples of one item are equal if the items are. -/
theorem equal_singletons (i j : Nat) (x y : Value) :
    s.equal (.tuple i [x]) (.tuple j [y]) = s.equal x y := by
  simp only [equal, equalInside, equalItems, Number.of?, Bool.and_true]

theorem equal_nested (x y : Value) (i j count : Nat) :
    s.equal (nested i count x) (nested j count y) = s.equal x y := by
  induction count with
  | zero => rfl
  | succ count ih => rw [nested, nested, equal_singletons, ih]

/-- Different items decide about sequences of one. -/
theorem compareItems_singletons {order : Value → Value → Except Cause Ordering} {x y : Value}
    (differ : ¬ s.equal x y = true) : compareItems s.equal order [x] [y] = order x y := by
  rw [compareItems, if_neg differ]
  rcases order x y with cause | (_ | _ | _) <;> rfl

/-- **Every tuple around two different values adds one to the depth that they need.** -/
theorem settles_nested {x y : Value} {depth : Nat} {answer : Except Cause Ordering}
    (differ : ¬ s.equal x y = true) (settles : Settles (s.compareWithin · x y) depth answer)
    (i j count : Nat) : Settles (s.compareWithin · (nested i count x) (nested j count y))
      (depth + count) answer := by
  induction count with
  | zero => exact settles
  | succ count ih =>
    have differ' : ¬ s.equal (nested i count x) (nested j count y) = true := by
      rwa [equal_nested]
    have items : Settles (fun limit => compareItems s.equal (s.compareWithin limit)
        [nested i count x] [nested j count y]) (depth + count) answer := by
      simpa only [compareItems_singletons differ'] using ih
    exact (Sequences.tuples _ _ _ _).settles items

/-- Integers need no depth. -/
theorem settles_int (i j : Nat) (m n : Integer) :
    Settles (s.compareWithin · (.int i m) (.int j n)) 0 (.ok (Ord.compare m.toInt n.toInt)) :=
  ⟨.inl ⟨_, rfl⟩, fun limit => by rw [if_pos (Nat.zero_le limit)]; cases limit <;> rfl⟩

/-- **Nothing needs to hold itself for the limit to be met**: one and two inside two hundred and one
tuples each are not compared, although one and two are. -/
theorem compare_nested_too_deep :
    (empty.Acyclic (nested 1 201 (.int 0 1)) ∧ empty.Acyclic (nested 203 201 (.int 202 2))) ∧
    empty.compare (nested 1 201 (.int 0 1)) (nested 203 201 (.int 202 2)) =
      .error .comparisonTooDeep ∧
    Cause.comparisonTooDeep.kind = .value ∧
    ¬ ∀ (s : Store) (a b : Value), s.Acyclic a → s.Acyclic b →
      ∀ cause, s.compare a b = .error cause → cause.kind = .typeMismatch := by
  have acyclic (id first : Nat) (n : Integer) :
      empty.Acyclic (nested first 201 (.int id n)) :=
    acyclic_nested (acyclic_of_forall fun w holds => by cases holds) first 201
  have differ : ¬ empty.equal (.int 0 1) (.int 202 2) = true := by
    simp only [equal, equalInside, Number.of?]
    decide
  have cut := (settles_nested differ (settles_int 0 202 1 2) 1 203 201).within depthLimit
  rw [if_neg (by decide)] at cut
  refine ⟨⟨acyclic 0 1 1, acyclic 202 203 2⟩, cut, rfl, fun claimed => ?_⟩
  cases claimed empty _ _ (acyclic 0 1 1) (acyclic 202 203 2) _ cut

end Store

end CallConsole
