/-
**Similar values: the greatest relation that equality stands for.**

Values may hold themselves, so equality is not defined by recursion on them. One step of comparison,
`Store.Matches R`, says how two values must agree when what they hold is related by `R`. Similarity
is the greatest relation that passes this step:

* `similar_iff_matches`: similar values pass the step with similarity itself;
* `Similar.symm`, `Similar.trans`, `similar_refl`: similarity is symmetric and transitive, and
  reflexive on every value from which no NaN is reachable;
* `similarInside_iff`: a pair is similar inside assumed pairs exactly when it is assumed, or passes
  the step while it is assumed itself.
-/

import CallConsole.Equality
import CallConsole.Proofs.NumericOrder
import CallConsole.Proofs.RangeElements
import CallConsole.Proofs.Reachability
import Mathlib.Data.List.Forall2
import Mathlib.Data.List.Nodup
import Mathlib.Data.List.Perm.Subperm

namespace CallConsole

/-- The value is a reversed, numbered or zipped sequence. -/
def Value.IsLazy (v : Value) : Prop := v.type = .reversed ∨ v.type = .enumerate ∨ v.type = .zip

/-- A number is no sequence. -/
theorem Value.not_isLazy_of_number {v : Value} {a : Number} (number : Number.of? v = some a) :
    ¬ v.IsLazy := by
  cases v <;> simp [Number.of?, IsLazy, type] at number ⊢

/-- A number is NaN as a value exactly if it is NaN as a number. -/
theorem Value.isNan_iff {v : Value} {a : Number} (number : Number.of? v = some a) :
    v.IsNan ↔ a.isNan = true := by
  cases v <;> cases number <;> simp [IsNan, Number.isNan]

/-- A value without NaN that is a number is no NaN. -/
theorem Store.NanFree.number {s : Store} {v : Value} (free : s.NanFree v) {a : Number}
    (number : Number.of? v = some a) : a.isNan = false :=
  Bool.eq_false_iff.mpr (mt (Value.isNan_iff number).mpr free.not_isNan)

/-- A number that is no NaN is without NaN. -/
theorem Store.nanFree_number {s : Store} {v : Value} {a : Number} (number : Number.of? v = some a)
    (notNan : a.isNan = false) : s.NanFree v := by
  refine nanFree_of_forall (fun nan => ?_) fun w holds => ?_
  · rw [(Value.isNan_iff number).mp nan] at notNan
    cases notNan
  · cases holds <;> cases number

/-- Tuples of numbers that are no NaN are without NaN. -/
theorem Store.nanFree_numbers {s : Store} {id : Nat} {items : List Value}
    (numbers : ∀ v ∈ items, ∃ a, Number.of? v = some a ∧ a.isNan = false) :
    s.NanFree (.tuple id items) := by
  refine nanFree_of_forall not_false fun v holds => ?_
  cases holds with
  | element member =>
    obtain ⟨a, number, notNan⟩ := numbers v member
    exact nanFree_number number notNan

/-- Slots occur once in a dict, so an entry is known by its slot. -/
theorem Dict.eq_of_slot {d : Dict} {e f : Entry} (first : e ∈ d.entries) (second : f ∈ d.entries)
    (same : e.slot = f.slot) : e = f :=
  List.inj_on_of_nodup_map d.distinct first second same

/-- An entry is the one of its slot. -/
theorem Dict.entryAt?_of_mem {d : Dict} {e : Entry} (member : e ∈ d.entries) :
    d.entryAt? e.slot = some e := by
  rw [entryAt?]
  cases looked : d.entries.find? (·.slot = e.slot) with
  | none => exact absurd (decide_eq_true rfl) (List.find?_eq_none.mp looked e member)
  | some other =>
    have same : other.slot = e.slot := by simpa using List.find?_some looked
    rw [d.eq_of_slot (List.mem_of_find?_eq_some looked) member same]

namespace Store

variable {s : Store}

/-! ### One step of comparison -/

/-- The first dict has as many entries as the second, and under each of its slots the second one has
a related value. -/
structure EntriesMatch (R : Value → Value → Prop) (first second : Dict) : Prop where
  length : first.length = second.length
  values : ∀ e ∈ first.entries, ∃ f ∈ second.entries, f.slot = e.slot ∧ R e.value f.value

/-- **One step of comparison**: how two values agree if `R` relates what they hold. -/
inductive Matches (s : Store) (R : Value → Value → Prop) : Value → Value → Prop
  | number {left right : Value} {a b : Number} :
      Number.of? left = some a → Number.of? right = some b → a.Same b → Matches s R left right
  | null (i j : Nat) : Matches s R (.null i) (.null j)
  | str (i j : Nat) (text : List Char) : Matches s R (.str i text) (.str j text)
  | tuple (i j : Nat) {xs ys : List Value} :
      List.Forall₂ R xs ys → Matches s R (.tuple i xs) (.tuple j ys)
  | sameList (place : Nat) : Matches s R (.list place) (.list place)
  | list {i j : Nat} :
      List.Forall₂ R (s.items i).toList (s.items j).toList → Matches s R (.list i) (.list j)
  | sameDict (place : Nat) : Matches s R (.dict place) (.dict place)
  | dict {i j : Nat} :
      EntriesMatch R (s.contents i) (s.contents j) → Matches s R (.dict i) (.dict j)
  | range (i j : Nat) {a b : Range} :
      a.integers = b.integers → Matches s R (.range i a) (.range j b)
  /-- Of reversed, numbered and zipped sequences only the same objects agree. -/
  | lazy {left right : Value} :
      left.IsLazy → left.type = right.type → left.same right = true → Matches s R left right

/-- Two values that hold `x` and `y` may agree because `x` and `y` do. -/
inductive Faces (s : Store) : Value → Value → Value → Value → Prop
  | elements {i j : Nat} {xs ys : List Value} {x y : Value} :
      x ∈ xs → y ∈ ys → Faces s (.tuple i xs) (.tuple j ys) x y
  | items {i j : Nat} {x y : Value} :
      x ∈ (s.items i).toList → y ∈ (s.items j).toList → Faces s (.list i) (.list j) x y
  | values {i j : Nat} {e f : Entry} :
      e ∈ (s.contents i).entries → f ∈ (s.contents j).entries →
      Faces s (.dict i) (.dict j) e.value f.value

/-- Items at equal places are related by whatever relates all pairs of items. -/
theorem forall₂_imp_of_mem {R S : Value → Value → Prop} {xs ys : List Value}
    (related : List.Forall₂ R xs ys) (weaker : ∀ x ∈ xs, ∀ y ∈ ys, R x y → S x y) :
    List.Forall₂ S xs ys := by
  rw [List.forall₂_iff_zip] at related ⊢
  refine ⟨related.1, fun {x y} pair => ?_⟩
  obtain ⟨first, second⟩ := List.of_mem_zip pair
  exact weaker x first y second (related.2 pair)

/-- **The step depends only on the pairs that the two values face each other with.** -/
theorem Matches.imp {R S : Value → Value → Prop} {left right : Value}
    (agree : s.Matches R left right) (weaker : ∀ x y, s.Faces left right x y → R x y → S x y) :
    s.Matches S left right := by
  cases agree with
  | number first second same => exact .number first second same
  | null i j => exact .null i j
  | str i j text => exact .str i j text
  | tuple i j related =>
    exact .tuple i j (forall₂_imp_of_mem related fun x first y second =>
      weaker x y (.elements first second))
  | sameList place => exact .sameList place
  | list related =>
    exact .list (forall₂_imp_of_mem related fun x first y second =>
      weaker x y (.items first second))
  | sameDict place => exact .sameDict place
  | dict related =>
    refine .dict ⟨related.length, ?_⟩
    intro e member
    obtain ⟨f, there, slot, values⟩ := related.values e member
    exact ⟨f, there, slot, weaker _ _ (.values member there) values⟩
  | range i j same => exact .range i j same
  | lazy kind type same => exact .lazy kind type same

/-- A step with a smaller relation is a step with a larger one. -/
theorem Matches.mono {R S : Value → Value → Prop} {left right : Value}
    (agree : s.Matches R left right) (weaker : ∀ x y, R x y → S x y) : s.Matches S left right :=
  agree.imp fun x y _ => weaker x y

/-! ### Turning a step around and putting two together -/

/-- **With equally many entries, every slot of the one dict is one of the other's.** -/
theorem EntriesMatch.slot_mem {R : Value → Value → Prop} {first second : Dict}
    (agree : EntriesMatch R first second) {f : Entry} (member : f ∈ second.entries) :
    ∃ e ∈ first.entries, e.slot = f.slot := by
  have subset : first.entries.map Entry.slot ⊆ second.entries.map Entry.slot := by
    intro slot there
    obtain ⟨e, inside, rfl⟩ := List.mem_map.mp there
    obtain ⟨f, found, same, _⟩ := agree.values e inside
    exact List.mem_map.mpr ⟨f, found, same⟩
  have lengths :
      (second.entries.map Entry.slot).length ≤ (first.entries.map Entry.slot).length := by
    rw [List.length_map, List.length_map]
    exact Nat.le_of_eq agree.length.symm
  have permuted := (List.subperm_of_subset first.distinct subset).perm_of_length_le lengths
  have slot := permuted.mem_iff.mpr (List.mem_map_of_mem member)
  exact List.mem_map.mp slot

theorem EntriesMatch.symm {R : Value → Value → Prop} {first second : Dict}
    (agree : EntriesMatch R first second) : EntriesMatch (fun x y => R y x) second first := by
  refine ⟨agree.length.symm, ?_⟩
  intro f member
  obtain ⟨e, inside, slot⟩ := agree.slot_mem member
  obtain ⟨f', there, same, values⟩ := agree.values e inside
  have entry : f' = f := second.eq_of_slot there member (same.trans slot)
  exact ⟨e, inside, slot, entry ▸ values⟩

theorem EntriesMatch.trans {R S : Value → Value → Prop} {first second third : Dict}
    (left : EntriesMatch R first second) (right : EntriesMatch S second third) :
    EntriesMatch (fun x z => ∃ y, R x y ∧ S y z) first third := by
  refine ⟨left.length.trans right.length, ?_⟩
  intro e member
  obtain ⟨f, inside, slot, before⟩ := left.values e member
  obtain ⟨g, there, slot', after⟩ := right.values f inside
  exact ⟨g, there, slot'.trans slot, f.value, before, after⟩

theorem forall₂_trans {α : Type} {R S : α → α → Prop} {xs ys zs : List α}
    (left : List.Forall₂ R xs ys) (right : List.Forall₂ S ys zs) :
    List.Forall₂ (fun x z => ∃ y, R x y ∧ S y z) xs zs := by
  induction left generalizing zs with
  | nil =>
    cases right
    exact .nil
  | cons head _ ih =>
    cases right with
    | cons head' tail => exact .cons ⟨_, head, head'⟩ (ih tail)

/-- **A step can be turned around.** -/
theorem Matches.symm {R : Value → Value → Prop} {left right : Value}
    (agree : s.Matches R left right) : s.Matches (fun x y => R y x) right left := by
  cases agree with
  | number first second same => exact .number second first same.symm
  | null i j => exact .null j i
  | str i j text => exact .str j i text
  | tuple i j related => exact .tuple j i related.flip
  | sameList place => exact .sameList place
  | list related => exact .list related.flip
  | sameDict place => exact .sameDict place
  | dict related => exact .dict related.symm
  | range i j same => exact .range j i same.symm
  | lazy kind type same =>
    refine .lazy ?_ type.symm ?_
    · rwa [Value.IsLazy, ← type]
    · simpa [Value.same, eq_comm] using same

/-- **Two steps can be put together**; where one of them stays at an object, the other one alone
decides. -/
theorem Matches.trans {R : Value → Value → Prop} {left middle right : Value}
    (before : s.Matches R left middle) (after : s.Matches R middle right) :
    s.Matches (fun x z => R x z ∨ ∃ y, R x y ∧ R y z) left right := by
  have widen : s.Matches R left right →
      s.Matches (fun x z => R x z ∨ ∃ y, R x y ∧ R y z) left right :=
    fun agree => agree.mono fun _ _ => .inl
  have chain {xs ys zs : List Value} (first : List.Forall₂ R xs ys)
      (second : List.Forall₂ R ys zs) :
      List.Forall₂ (fun x z => R x z ∨ ∃ y, R x y ∧ R y z) xs zs :=
    (forall₂_trans first second).imp fun _ _ => .inr
  cases before with
  | number first second same =>
    cases after with
    | number second' third same' =>
      cases second.symm.trans second'
      exact .number first third (same.trans same')
    | lazy kind => exact absurd kind (Value.not_isLazy_of_number second)
    | _ => cases second
  | null i j =>
    cases after with
    | number first => cases first
    | null _ k => exact .null i k
    | lazy kind => simp [Value.IsLazy, Value.type] at kind
  | str i j text =>
    cases after with
    | number first => cases first
    | str _ k => exact .str i k text
    | lazy kind => simp [Value.IsLazy, Value.type] at kind
  | tuple i j related =>
    cases after with
    | number first => cases first
    | tuple _ k related' => exact .tuple i k (chain related related')
    | lazy kind => simp [Value.IsLazy, Value.type] at kind
  | sameList place => exact widen after
  | list related =>
    cases after with
    | number first => cases first
    | sameList => exact widen (.list related)
    | list related' => exact .list (chain related related')
    | lazy kind => simp [Value.IsLazy, Value.type] at kind
  | sameDict place => exact widen after
  | dict related =>
    cases after with
    | number first => cases first
    | sameDict => exact widen (.dict related)
    | dict related' =>
      refine .dict ⟨related.length.trans related'.length, ?_⟩
      intro e member
      obtain ⟨g, there, slot, values⟩ := (related.trans related').values e member
      exact ⟨g, there, slot, .inr values⟩
    | lazy kind => simp [Value.IsLazy, Value.type] at kind
  | range i j same =>
    cases after with
    | number first => cases first
    | range _ k same' => exact .range i k (same.trans same')
    | lazy kind => simp [Value.IsLazy, Value.type] at kind
  | lazy kind type same =>
    have kind' : middle.IsLazy := by rwa [Value.IsLazy, ← type]
    cases after with
    | number first => exact absurd kind' (Value.not_isLazy_of_number first)
    | lazy _ type' same' =>
      refine .lazy kind (type.trans type') ?_
      simp only [Value.same, decide_eq_true_eq] at same same' ⊢
      exact same.trans same'
    | _ => simp [Value.IsLazy, Value.type] at kind'

/-- **A value passes the step with itself**, if all that it holds is related to itself. -/
theorem matches_refl {R : Value → Value → Prop} {v : Value} (number : ¬ v.IsNan)
    (related : ∀ w, s.Holds v w → R w w) : s.Matches R v v := by
  cases v with
  | null i => exact .null i i
  | bool i b => exact .number rfl rfl (.refl rfl)
  | int i n => exact .number rfl rfl (.refl rfl)
  | float i x =>
    refine .number rfl rfl (.refl ?_)
    simpa [Value.IsNan, Number.isNan] using number
  | str i text => exact .str i i text
  | list place => exact .sameList place
  | dict place => exact .sameDict place
  | tuple i items =>
    refine .tuple i i (List.forall₂_same.mpr ?_)
    intro w member
    exact related w (.element member)
  | range i r => exact .range i i rfl
  | reversed i items => exact .lazy (.inl rfl) rfl (by simp [Value.same])
  | reversedRange i r => exact .lazy (.inl rfl) rfl (by simp [Value.same])
  | enumerate i source start => exact .lazy (.inr (.inl rfl)) rfl (by simp [Value.same])
  | zip i sources => exact .lazy (.inr (.inr rfl)) rfl (by simp [Value.same])

/-! ### The greatest relation -/

/-- **Two values are similar**: some relation between them passes the step at every pair. -/
def Similar (s : Store) (left right : Value) : Prop :=
  ∃ R : Value → Value → Prop, (∀ x y, R x y → s.Matches R x y) ∧ R left right

/-- **Similarity passes the step at every pair, and only such pairs are similar.** -/
theorem similar_iff_matches {left right : Value} :
    s.Similar left right ↔ s.Matches s.Similar left right := by
  have passes : ∀ x y, s.Similar x y → s.Matches s.Similar x y := by
    rintro x y ⟨R, steps, related⟩
    exact (steps x y related).mono fun x y related => ⟨R, steps, related⟩
  constructor
  · exact passes left right
  · intro agree
    refine ⟨s.Matches s.Similar, fun x y agree => ?_, agree⟩
    exact agree.mono passes

theorem Similar.symm {left right : Value} (similar : s.Similar left right) :
    s.Similar right left := by
  obtain ⟨R, steps, related⟩ := similar
  exact ⟨fun x y => R y x, fun x y related => (steps y x related).symm, related⟩

theorem Similar.trans {left middle right : Value} (before : s.Similar left middle)
    (after : s.Similar middle right) : s.Similar left right := by
  refine ⟨fun x z => s.Similar x z ∨ ∃ y, s.Similar x y ∧ s.Similar y z, ?_,
    .inr ⟨middle, before, after⟩⟩
  rintro x z (similar | ⟨y, first, second⟩)
  · exact (similar_iff_matches.mp similar).mono fun _ _ => .inl
  · exact (similar_iff_matches.mp first).trans (similar_iff_matches.mp second)

/-- **Every value from which no NaN is reachable is similar to itself.** -/
theorem similar_refl {v : Value} (free : s.NanFree v) : s.Similar v v := by
  refine ⟨fun x y => x = y ∧ s.NanFree x, ?_, rfl, free⟩
  rintro x y ⟨rfl, free⟩
  exact matches_refl free.not_isNan fun w holds => ⟨rfl, free.of_holds holds⟩

/-! ### Similarity inside assumed pairs -/

/-- The pair that two containers of one kind are. -/
def pair? : Value → Value → Option ContainerPair
  | .list i, .list j => some (.lists i j)
  | .dict i, .dict j => some (.dicts i j)
  | _, _ => none

/-- The two values are one of the given pairs of containers. -/
def Assumed (active : List ContainerPair) (left right : Value) : Prop :=
  ∃ p ∈ active, pair? left right = some p

/-- The given pairs, and that of the two values if they are containers of one kind. -/
def enter (active : List ContainerPair) (left right : Value) : List ContainerPair :=
  (pair? left right).elim active (· :: active)

/-- A pair is one of two lists or of two dicts. -/
theorem eq_of_pair? {x y left right : Value} {p : ContainerPair} (first : pair? x y = some p)
    (second : pair? left right = some p) : x = left ∧ y = right := by
  unfold pair? at first second
  split at first <;> split at second <;> cases first <;> cases second <;> exact ⟨rfl, rfl⟩

/-- Entering a pair keeps the assumed ones. -/
theorem Assumed.enter {active : List ContainerPair} {x y : Value} (assumed : Assumed active x y)
    (left right : Value) : Assumed (enter active left right) x y := by
  obtain ⟨p, member, pair⟩ := assumed
  refine ⟨p, ?_, pair⟩
  unfold Store.enter
  cases pair? left right with
  | none => exact member
  | some q => exact List.mem_cons_of_mem q member

/-- What is assumed after a pair was entered is that pair, or was assumed before. -/
theorem Assumed.of_enter {active : List ContainerPair} {left right x y : Value}
    (assumed : Assumed (Store.enter active left right) x y) :
    Assumed active x y ∨ (x = left ∧ y = right) := by
  obtain ⟨p, member, pair⟩ := assumed
  unfold Store.enter at member
  cases entered : pair? left right with
  | none =>
    rw [entered] at member
    exact .inl ⟨p, member, pair⟩
  | some q =>
    rw [entered] at member
    rcases List.mem_cons.mp member with rfl | before
    · exact .inr (eq_of_pair? pair entered)
    · exact .inl ⟨p, before, pair⟩

/-- Two values are similar as far as the given pairs of containers are. -/
def SimilarInside (s : Store) (active : List ContainerPair) (left right : Value) : Prop :=
  ∃ R : Value → Value → Prop,
    (∀ x y, R x y → Assumed active x y ∨ s.Matches R x y) ∧ R left right

/-- **A pair is similar inside assumed pairs exactly when it is assumed, or passes the step while it
is assumed itself.** -/
theorem similarInside_iff {active : List ContainerPair} {left right : Value} :
    s.SimilarInside active left right ↔
      Assumed active left right ∨
        s.Matches (s.SimilarInside (enter active left right)) left right := by
  constructor
  · rintro ⟨R, steps, related⟩
    refine (steps left right related).imp_right fun agree => agree.mono fun x y related => ?_
    exact ⟨R, fun x y related => (steps x y related).imp_left (·.enter left right), related⟩
  · rintro (assumed | agree)
    · refine ⟨fun x y => x = left ∧ y = right, ?_, rfl, rfl⟩
      rintro x y ⟨rfl, rfl⟩
      exact .inl assumed
    · -- the pair itself is added to the relation, so it need not be assumed any more
      refine ⟨fun x y => s.SimilarInside (enter active left right) x y ∨ (x = left ∧ y = right),
        ?_, .inr ⟨rfl, rfl⟩⟩
      have wider := agree.mono (S := fun x y =>
        s.SimilarInside (enter active left right) x y ∨ (x = left ∧ y = right)) fun _ _ => .inl
      rintro x y (⟨R, steps, related⟩ | ⟨rfl, rfl⟩)
      · rcases steps x y related with assumed | agree'
        · rcases assumed.of_enter with before | ⟨rfl, rfl⟩
          · exact .inl before
          · exact .inr wider
        · exact .inr (agree'.mono fun x y related => .inl ⟨R, steps, related⟩)
      · exact .inr wider

/-- Inside no pairs, similarity is similarity. -/
theorem similarInside_nil {left right : Value} :
    s.SimilarInside [] left right ↔ s.Similar left right := by
  constructor
  · rintro ⟨R, steps, related⟩
    refine ⟨R, ?_, related⟩
    intro x y related
    rcases steps x y related with ⟨p, member, _⟩ | agree
    · cases member
    · exact agree
  · rintro ⟨R, steps, related⟩
    exact ⟨R, fun x y related => .inr (steps x y related), related⟩

end Store

end CallConsole
