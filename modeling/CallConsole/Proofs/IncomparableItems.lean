/-
**Ranking never loses an item and never hides an incomparable one.**

The order of values leaves NaN beside every number, so a sort may have no consistent order to go by;
and it does not compare every two items. Still:

* `Store.sort_recorded`: what comes out of a sort are the very objects that went in, and neighbours
  have been compared with each other;
* `Store.exists_compare_iff`: beside sequences only numbers have an order among each other, and
  strings;
* `Builtin.ranking_hides_nothing`: so `sorted`, `min` and `max` notice a single item of another
  type, wherever it stands.
-/

import CallConsole.Proofs.ConsistentOrder
import CallConsole.Proofs.RankingCalls
import CallConsole.Proofs.StableSort

namespace CallConsole

/-! ### What can be compared -/

namespace Value

/-- The value is a number. -/
def IsNumber (v : Value) : Prop := v.type = .int ∨ v.type = .float ∨ v.type = .bool

/-- The value is a string. -/
def IsText (v : Value) : Prop := v.type = .str

/-- The value is ordered by the items that it holds. -/
def IsSequence (v : Value) : Prop := v.type = .list ∨ v.type = .tuple

variable {v : Value}

/-- The numbers are the values with a numeric view. -/
theorem isNumber_iff : v.IsNumber ↔ ∃ n, Number.of? v = some n := by
  unfold IsNumber
  cases v <;> simp [type, Number.of?]

theorem isText_iff : v.IsText ↔ ∃ id text, v = .str id text := by
  unfold IsText
  cases v <;> simp [type]

/-- No value is both a number and a string. -/
theorem IsNumber.not_isText (number : v.IsNumber) : ¬ v.IsText := by
  intro text
  obtain ⟨id, cs, rfl⟩ := isText_iff.mp text
  obtain ⟨n, view⟩ := isNumber_iff.mp number
  cases view

/-- The two values are numbers, or they are strings. -/
inductive Kin : Value → Value → Prop
  | numbers {a b : Value} : a.IsNumber → b.IsNumber → Kin a b
  | texts {a b : Value} : a.IsText → b.IsText → Kin a b

theorem Kin.symm {a b : Value} (kin : a.Kin b) : b.Kin a := by
  cases kin with
  | numbers first second => exact .numbers second first
  | texts first second => exact .texts second first

theorem Kin.trans {a b c : Value} (kin : a.Kin b) (next : b.Kin c) : a.Kin c := by
  cases kin with
  | numbers first second =>
    cases next with
    | numbers _ third => exact .numbers first third
    | texts other _ => exact absurd other second.not_isText
  | texts first second =>
    cases next with
    | numbers other _ => exact absurd second other.not_isText
    | texts _ third => exact .texts first third

/-- Values that are all kin are all numbers, or all strings. -/
theorem forall_kin_iff {items : List Value} (nonempty : items ≠ []) :
    (∀ x ∈ items, ∀ y ∈ items, x.Kin y) ↔
      (∀ v ∈ items, v.IsNumber) ∨ ∀ v ∈ items, v.IsText := by
  constructor
  · intro kin
    obtain ⟨first, rest, rfl⟩ := List.exists_cons_of_ne_nil nonempty
    have linked := kin first List.mem_cons_self
    cases linked first List.mem_cons_self with
    | numbers number _ =>
      refine .inl fun v member => ?_
      cases linked v member with
      | numbers _ second => exact second
      | texts other _ => exact absurd other number.not_isText
    | texts text _ =>
      refine .inr fun v member => ?_
      cases linked v member with
      | numbers other _ => exact absurd text other.not_isText
      | texts _ second => exact second
  · rintro (numbers | texts)
    · exact fun x first y second => .numbers (numbers x first) (numbers y second)
    · exact fun x first y second => .texts (texts x first) (texts y second)

end Value

namespace Store

variable {s : Store}

section Values

variable {items : List Value → List Value → Except Cause Ordering} {a b : Value}

/-- Beside sequences, the values that can be compared are those that are kin. -/
theorem exists_compareWith_iff (first : ¬ a.IsSequence) (second : ¬ b.IsSequence) :
    (∃ o, s.compareWith items a b = .ok o) ↔ a.Kin b := by
  constructor
  · rintro ⟨o, ranked⟩
    cases compareWith_eq_ok_iff.mp ranked with
    | number left right =>
      exact .numbers (Value.isNumber_iff.mpr ⟨_, left⟩) (Value.isNumber_iff.mpr ⟨_, right⟩)
    | str => exact .texts rfl rfl
    | list => exact absurd (.inl rfl) first
    | tuple => exact absurd (.inr rfl) first
  · intro kin
    cases kin with
    | numbers left right =>
      obtain ⟨m, left⟩ := Value.isNumber_iff.mp left
      obtain ⟨n, right⟩ := Value.isNumber_iff.mp right
      exact ⟨_, compareWith_eq_ok_iff.mpr (.number left right)⟩
    | texts left right =>
      obtain ⟨i, text, rfl⟩ := Value.isText_iff.mp left
      obtain ⟨j, text', rfl⟩ := Value.isText_iff.mp right
      exact ⟨_, compareWith_eq_ok_iff.mpr (.str i j text text')⟩

/-- Beside sequences, what cannot be compared is of types that cannot. -/
theorem kind_of_compareWith_error (first : ¬ a.IsSequence) {cause : Cause}
    (failed : s.compareWith items a b = .error cause) : cause.kind = .typeMismatch := by
  rcases eq_incomparable_or_sequences failed with mismatch | ⟨xs, ys, held, _⟩
  · rw [mismatch]
    rfl
  · cases held with
    | lists => exact absurd (.inl rfl) first
    | tuples => exact absurd (.inr rfl) first

end Values

/-- **Beside sequences, numbers can be compared with numbers, strings with strings**, and nothing
else with anything. -/
theorem exists_compare_iff {a b : Value} (first : ¬ a.IsSequence) (second : ¬ b.IsSequence) :
    (∃ o, s.compare a b = .ok o) ↔ a.Kin b :=
  exists_compareWith_iff first second

theorem kind_of_compare_error {a b : Value} (first : ¬ a.IsSequence) {cause : Cause}
    (failed : s.compare a b = .error cause) : cause.kind = .typeMismatch :=
  kind_of_compareWith_error first failed

/-! ### Sorting and selecting -/

/-- What is made of an answer is there exactly if the answer is. -/
theorem exists_map_iff {α β : Type} {answer : Except Cause α} {f : α → β} :
    (∃ b, answer.map f = .ok b) ↔ ∃ a, answer = .ok a := by
  cases answer with
  | ok a => exact ⟨fun _ => ⟨a, rfl⟩, fun _ => ⟨f a, rfl⟩⟩
  | error cause => exact ⟨nofun, nofun⟩

theorem error_of_map {α β : Type} {answer : Except Cause α} {f : α → β} {cause : Cause}
    (failed : answer.map f = .error cause) : answer = .error cause := by
  cases answer with
  | ok a => cases failed
  | error cause' =>
    cases failed
    rfl

variable {descending : Bool} {wanted : Ordering}

theorem precedes_kinship :
    Kinship (s.precedes descending) (fun v => ¬ v.IsSequence) Value.Kin where
  symm := Value.Kin.symm
  trans := Value.Kin.trans
  answers := by
    intro a b first second
    cases descending with
    | false => exact exists_map_iff.trans (exists_compare_iff first second)
    | true =>
      refine exists_map_iff.trans ((exists_compare_iff second first).trans ?_)
      exact ⟨Value.Kin.symm, Value.Kin.symm⟩

theorem beats_kinship : Kinship (s.beats wanted) (fun v => ¬ v.IsSequence) Value.Kin where
  symm := Value.Kin.symm
  trans := Value.Kin.trans
  answers first second := exists_map_iff.trans (exists_compare_iff first second)

/-- **A ranking of the items notices what cannot be compared**: it succeeds exactly if they are all
kin, and otherwise the types do not match. -/
structure Notices {β : Type} (items : List Value) (result : Except Cause β) : Prop where
  succeeds : (∃ b, result = .ok b) ↔ ∀ x ∈ items, ∀ y ∈ items, x.Kin y
  mismatch {cause : Cause} : result = .error cause → cause.kind = .typeMismatch

variable {items : List Value}

theorem sort_notices (plain : ∀ v ∈ items, ¬ v.IsSequence) (many : 2 ≤ items.length) :
    Notices items (s.sort descending items) where
  succeeds := precedes_kinship.exists_sort_iff plain many
  mismatch := by
    intro cause failed
    obtain ⟨x, first, y, second, failed⟩ := Sorting.exists_of_sort_error failed
    have compared := error_of_map failed
    cases descending with
    | false => exact kind_of_compare_error (plain x first) compared
    | true => exact kind_of_compare_error (plain y second) compared

theorem select_notices {best : Value} {rest : List Value}
    (plain : ∀ v ∈ best :: rest, ¬ v.IsSequence) (many : rest ≠ []) :
    Notices (best :: rest) (Sorting.select (s.beats wanted) best rest) where
  succeeds := beats_kinship.exists_select_iff plain many
  mismatch := by
    intro cause failed
    obtain ⟨x, first, y, _, failed⟩ := Sorting.exists_of_select_error failed
    exact kind_of_compare_error (plain x first) (error_of_map failed)

/-- The sort of values with its record. The values are numbered by their positions, which tells
the objects that went in from each other. -/
def sortRecorded (s : Store) (descending : Bool) (items : List Value) :
    Sorting.Recorded Cause (Value × Nat) :=
  Sorting.sortRecorded (s.numberedPrecedes descending) items.zipIdx

/-- **Sorting is what the record is of.** -/
theorem sort_eq_recorded (s : Store) (descending : Bool) (items : List Value) :
    s.sort descending items =
      (s.sortRecorded descending items).result.map (List.map Prod.fst) := by
  rw [sortRecorded, Sorting.sortRecorded_result]
  exact sort_eq_numbered s descending items

/-- **A sort loses nothing, and has compared all neighbours**, whatever the values are. What comes
out is what went in, numbers and all; the comparisons that were made have not failed, and the sort
would have failed with any of them; and of two neighbours in the result one was asked to come before
the other, and they stand as the answer has it. -/
theorem sort_recorded {sorted : List Value} (done : s.sort descending items = .ok sorted) :
    ∃ arranged, (s.sortRecorded descending items).result = .ok arranged ∧
      sorted = arranged.map Prod.fst ∧ arranged.Perm items.zipIdx ∧
      (∀ c ∈ (s.sortRecorded descending items).made,
        (∃ answer, s.numberedPrecedes descending c.1 c.2 = .ok answer) ∧
          Sorting.DependsOn (s.numberedPrecedes descending) items.zipIdx c) ∧
      arranged.IsChain (Sorting.Settled (s.numberedPrecedes descending)
        (s.sortRecorded descending items).made) := by
  rw [sort_eq_recorded] at done
  cases ran : (s.sortRecorded descending items).result with
  | error cause =>
    rw [ran] at done
    cases done
  | ok arranged =>
    rw [ran] at done
    cases done
    have explains : Sorting.Explains _ _ (s.sortRecorded descending items) :=
      Sorting.sortRecorded_explains fun (x : Value × Nat) (_ : x ∈ items.zipIdx) => trivial
    refine ⟨arranged, rfl, rfl, ?_, fun c made => ?_, Sorting.sort_settled ran⟩
    · rw [sortRecorded, Sorting.sortRecorded_result] at ran
      exact Sorting.sort_perm ran
    · exact ⟨explains.answered arranged ran c made, Sorting.dependsOn_of_made made⟩

end Store

/-! ### Where the items come from -/

/-- **What a cursor passes is there already, or all of it is made**: numbers, strings or tuples. -/
theorem Cursor.ahead_kinds (s : Store) (c : Cursor) :
    (∃ vs : List Value, c.ahead s = vs.map .object) ∨
      ∃ type, (type = .int ∨ type = .str ∨ type = .tuple) ∧
        ∀ item ∈ c.ahead s, ∀ s', (item.create s').1.type = type := by
  have made {α : Type} {type : TypeName} {f : α → Item}
      (each : ∀ a s', ((f a).create s').1.type = type) (as : List α) :
      ∀ item ∈ as.map f, ∀ s', (item.create s').1.type = type := by
    intro item member s'
    obtain ⟨a, _, rfl⟩ := List.mem_map.mp member
    exact each a s'
  cases c with
  | live place index => exact .inl ⟨_, rfl⟩
  | fixed items => exact .inl ⟨items, rfl⟩
  | chars text => exact .inr ⟨_, .inr (.inl rfl), made (fun _ _ => rfl) text⟩
  | forward r index => exact .inr ⟨_, .inl rfl, made (fun _ _ => rfl) _⟩
  | backward r remaining => exact .inr ⟨_, .inl rfl, made (fun _ _ => rfl) _⟩
  | numbered source start =>
    refine .inr ⟨_, .inr (.inr rfl), fun item member s' => ?_⟩
    obtain ⟨k, _, rfl⟩ := List.mem_mapIdx.mp member
    rfl
  | rows sources => exact .inr ⟨_, .inr (.inr rfl), made (fun _ _ => rfl) _⟩

/-- Items of one type are made into objects of this type. -/
theorem Item.type_of_mem_createAll {type : TypeName} {items : List Item}
    (each : ∀ item ∈ items, ∀ s, (item.create s).1.type = type) (s : Store) :
    ∀ v ∈ (createAll s items).1, v.type = type := by
  induction items generalizing s with
  | nil => exact List.forall_mem_nil _
  | cons item rest ih =>
    obtain ⟨first, others⟩ := List.forall_mem_cons.mp each
    exact List.forall_mem_cons.mpr ⟨first s, ih others _⟩

/-- **Elements that are neither all numbers nor all strings are there already**, unless there is a
list or a tuple among them. -/
theorem Action.unchanged_of_elements {s s' : Store} {v : Value} {items : List Value}
    (taken : Action.elements v s = .ok items s') (plain : ∀ v ∈ items, ¬ v.IsSequence)
    (mixed : ¬ ((∀ v ∈ items, v.IsNumber) ∨ ∀ v ∈ items, v.IsText)) : s' = s := by
  obtain ⟨c, opened⟩ := exists_cursor_of_elements taken
  cases (elements_of_cursor opened).symm.trans taken
  rw [Cursor.drain_eq] at plain mixed ⊢
  rcases c.ahead_kinds s with ⟨vs, there⟩ | ⟨type, kinds, each⟩
  · rw [there, Item.createAll_objects]
  · have types := Item.type_of_mem_createAll each s
    rcases kinds with rfl | rfl | rfl
    · exact absurd (.inl fun v member => .inl (types v member)) mixed
    · exact absurd (.inr types) mixed
    · exact absurd (.inl fun v member => absurd (.inr (types v member)) (plain v member)) mixed

/-! ### The calls -/

namespace Builtin

/-- **The calls that rank values**, with the values that they rank: `sorted`, and `min` and `max` of
the elements of a value or of several arguments. -/
inductive Ranks (s : Store) : String → List Value → List Value → Prop
  | sorted {v : Value} (flag : Option Value) {items : List Value} {s' : Store} :
      Action.elements v s = .ok items s' → Ranks s "sorted" (v :: flag.toList) items
  | least {v : Value} {items : List Value} {s' : Store} :
      Action.elements v s = .ok items s' → Ranks s "min" [v] items
  | greatest {v : Value} {items : List Value} {s' : Store} :
      Action.elements v s = .ok items s' → Ranks s "max" [v] items
  | leastOf {items : List Value} : 2 ≤ items.length → Ranks s "min" items items
  | greatestOf {items : List Value} : 2 ≤ items.length → Ranks s "max" items items

/-- **How a call ends that notices what cannot be compared.** -/
structure NoticesIn (w : World) (items : List Value) (reached : Except Failure Value × World) :
    Prop where
  succeeds : (∃ v, reached.1 = .ok v) ↔ ∀ x ∈ items, ∀ y ∈ items, x.Kin y
  mismatch {failure : Failure} : reached.1 = .error failure →
    ∃ cause, cause.kind = .typeMismatch ∧ reached = (.error (.ofCause cause), w)

variable {w : World} {s : Store} {items : List Value} {action : Action Value}

/-- A call ends as the ranking does that it comes down to. The store that is ranked in is the one of
the call if there is something that cannot be compared. -/
theorem noticesIn_of_eq {β : Type} {rank : Store → Except Cause β} {next : β → Action Value}
    (acts : action w.store = (Action.tryRead rank >>= next) s)
    (makes : ∀ b s, ∃ v s', next b s = .ok v s')
    (notices : Store.Notices items (rank s))
    (same : ¬ (∀ x ∈ items, ∀ y ∈ items, x.Kin y) → s = w.store) :
    NoticesIn w items ((Run.act action).outcome w) := by
  cases ranked : rank s with
  | ok b =>
    obtain ⟨v, s', made⟩ := makes b s
    rw [EStateM.bind_of_ok (Action.tryRead_of_ok ranked), made] at acts
    rw [Run.outcome_act_of_ok acts]
    refine ⟨?_, nofun⟩
    rw [← notices.succeeds]
    exact ⟨fun _ => ⟨b, ranked⟩, fun _ => ⟨_, rfl⟩⟩
  | error cause =>
    have apart : ¬ ∀ x ∈ items, ∀ y ∈ items, x.Kin y := by
      rw [← notices.succeeds, ranked]
      exact nofun
    obtain rfl := same apart
    rw [EStateM.bind_of_error (Action.tryRead_of_error ranked)] at acts
    rw [Run.outcome_act_of_error acts]
    exact ⟨⟨nofun, fun kin => absurd kin apart⟩, fun _ => ⟨cause, notices.mismatch ranked, rfl⟩⟩

/-- The search for an extreme value notices what cannot be compared. -/
theorem noticesIn_extremum {function : String} {wanted : Ordering}
    (acts : action w.store = extremumAmong function wanted items s)
    (plain : ∀ v ∈ items, ¬ v.IsSequence) (many : 2 ≤ items.length)
    (same : ¬ (∀ x ∈ items, ∀ y ∈ items, x.Kin y) → s = w.store) :
    NoticesIn w items ((Run.act action).outcome w) := by
  match items with
  | first :: second :: rest =>
    rw [extremumAmong, Action.extremum_eq_select, ← bind_pure (Action.tryRead _)] at acts
    exact noticesIn_of_eq acts (fun v s => ⟨v, s, rfl⟩)
      (Store.select_notices plain (List.cons_ne_nil second rest)) same

/-- **Every call that ranks values notices what cannot be compared.** -/
theorem Ranks.noticesIn {name : String} {arguments : List Value}
    (ranks : Ranks w.store name arguments items) (plain : ∀ v ∈ items, ¬ v.IsSequence)
    (many : 2 ≤ items.length) : NoticesIn w items ((invoke name arguments).outcome w) := by
  have nonempty : items ≠ [] := List.ne_nil_of_length_pos (Nat.lt_of_lt_of_le Nat.zero_lt_two many)
  have same {v : Value} {s' : Store} (taken : Action.elements v w.store = .ok items s')
      (apart : ¬ ∀ x ∈ items, ∀ y ∈ items, x.Kin y) : s' = w.store :=
    Action.unchanged_of_elements taken plain (mt (Value.forall_kin_iff nonempty).mpr apart)
  cases ranks with
  | sorted flag taken =>
    rw [outcome_sorted]
    exact noticesIn_of_eq (sortedOf_eq taken flag) (fun _ _ => ⟨_, _, rfl⟩)
      (Store.sort_notices plain many) (same taken)
  | least taken =>
    rw [outcome_min w (List.cons_ne_nil _ [])]
    exact noticesIn_extremum (extremumOf_eq "min" .lt taken) plain many (same taken)
  | greatest taken =>
    rw [outcome_max w (List.cons_ne_nil _ [])]
    exact noticesIn_extremum (extremumOf_eq "max" .gt taken) plain many (same taken)
  | leastOf =>
    rw [outcome_min w nonempty]
    exact noticesIn_extremum (extremumOf_several "min" .lt many) plain many fun _ => rfl
  | greatestOf =>
    rw [outcome_max w nonempty]
    exact noticesIn_extremum (extremumOf_several "max" .gt many) plain many fun _ => rfl

/-- **Ranking never loses an item and never hides an incomparable one.** Whatever the values are and
in both directions, a sort that succeeds yields the objects that it was given, depends on
comparisons none of which failed, and has compared all neighbours with each other. Of at least two
values that are no lists and no tuples, `sorted`, `min` and `max` succeed exactly if all are numbers
or all are strings; otherwise they fail for a type, and nothing has changed. -/
theorem ranking_hides_nothing :
    (∀ (s : Store) (descending : Bool) (items sorted : List Value),
      s.sort descending items = .ok sorted →
      ∃ arranged, (s.sortRecorded descending items).result = .ok arranged ∧
        sorted = arranged.map Prod.fst ∧ arranged.Perm items.zipIdx ∧
        (∀ c ∈ (s.sortRecorded descending items).made,
          (∃ answer, s.numberedPrecedes descending c.1 c.2 = .ok answer) ∧
            Sorting.DependsOn (s.numberedPrecedes descending) items.zipIdx c) ∧
        arranged.IsChain (Sorting.Settled (s.numberedPrecedes descending)
          (s.sortRecorded descending items).made)) ∧
    ∀ (w : World) (name : String) (arguments items : List Value),
      Ranks w.store name arguments items → 2 ≤ items.length →
      (∀ v ∈ items, ¬ v.IsSequence) →
      ((∃ v, ((invoke name arguments).outcome w).1 = .ok v) ↔
        (∀ v ∈ items, v.IsNumber) ∨ ∀ v ∈ items, v.IsText) ∧
      (¬ ((∀ v ∈ items, v.IsNumber) ∨ ∀ v ∈ items, v.IsText) →
        ∃ cause, cause.kind = .typeMismatch ∧
          (invoke name arguments).outcome w = (.error (.ofCause cause), w)) := by
  refine ⟨fun s descending items sorted => Store.sort_recorded, ?_⟩
  intro w name arguments items ranks many plain
  have notices := ranks.noticesIn plain many
  have nonempty : items ≠ [] := List.ne_nil_of_length_pos (Nat.lt_of_lt_of_le Nat.zero_lt_two many)
  rw [← Value.forall_kin_iff nonempty, ← notices.succeeds]
  refine ⟨Iff.rfl, fun failed => ?_⟩
  cases ended : ((invoke name arguments).outcome w).1 with
  | ok v => exact absurd ⟨v, ended⟩ failed
  | error failure => exact notices.mismatch ended

/-- Three numbers, one of which is NaN. -/
def nanItems : List Value := [.int 0 2, .float 1 Double.nan, .bool 2 true]

/-- The same with a string behind them. -/
def oddItems : List Value := nanItems ++ [.str 3 ['a']]

/-- The numbers are sorted, NaN or not, and their least one is found; the string among them is
noticed. -/
theorem ranking_hides_nothing_nan :
    (∃ sorted arranged, Store.empty.sort true nanItems = .ok sorted ∧
      (Store.empty.sortRecorded true nanItems).result = .ok arranged ∧
      arranged.Perm nanItems.zipIdx) ∧
    (∃ v, ((invoke "min" nanItems).outcome World.empty).1 = .ok v) ∧
    ∃ cause, cause.kind = .typeMismatch ∧
      (invoke "sorted" [.tuple 4 oddItems]).outcome World.empty =
        (.error (.ofCause cause), World.empty) := by
  have numbers : ∀ v ∈ nanItems, v.IsNumber := by simp [nanItems, Value.IsNumber, Value.type]
  have plain : ∀ v ∈ oddItems, ¬ v.IsSequence := by
    simp [oddItems, nanItems, Value.IsSequence, Value.type]
  have fewer : ∀ v ∈ nanItems, ¬ v.IsSequence :=
    fun v member => plain v (List.mem_append_left _ member)
  obtain ⟨sorted, done⟩ : ∃ sorted, Store.empty.sort true nanItems = .ok sorted :=
    (Store.sort_notices fewer (by decide)).succeeds.mpr
      ((Value.forall_kin_iff (List.cons_ne_nil _ _)).mpr (.inl numbers))
  obtain ⟨sorts, ends⟩ := ranking_hides_nothing
  obtain ⟨arranged, recorded, _, perm, _⟩ := sorts Store.empty true nanItems sorted done
  refine ⟨⟨sorted, arranged, done, recorded, perm⟩, ?_, ?_⟩
  · have least : Ranks Store.empty "min" nanItems nanItems := .leastOf (by decide)
    exact (ends World.empty "min" nanItems nanItems least (by decide) fewer).1.mpr (.inl numbers)
  · have taken : Action.elements (.tuple 4 oddItems) Store.empty = .ok oddItems Store.empty :=
      Action.elements_objects rfl
    refine (ends World.empty "sorted" _ oddItems (.sorted none taken) (by decide) plain).2 ?_
    simp [oddItems, nanItems, Value.IsNumber, Value.IsText, Value.type]

end Builtin

end CallConsole
