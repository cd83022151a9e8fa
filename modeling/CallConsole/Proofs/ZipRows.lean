/-
**Rows of lists that grow.**

A cursor in a zip of lists has a position of its own in each of them. A step asks the lists one
after another, and the lists in front of the first one that has nothing left are past their item
by then: nothing takes them back. So the rows can be taken from different positions once a list
grows that was at its end.

* `Cursor.nextAll_live`: what a step makes of the positions;
* `Machine.positions_runs`: what rows and broken rows keep lasts through programs, so that positions
  never rise from left to right and the last of them is the number of rows (`Staggered`);
* `zip_rows_positions`: every row of every run is taken from these positions, and they are one and
  the same as long as no step found the end behind an item of the first list;
* `zip_rows_fall_apart`: two lists of different length, and a row from positions 2 and 1.
-/

import CallConsole.Proofs.CursorRuns

namespace CallConsole

/-! ### Positions in lists -/

namespace Store

/-- What the lists hold at the positions, if each of them holds something there. -/
def row? (s : Store) (places positions : List Nat) : Option (List Value) :=
  (places.zip positions).mapM fun here => (s.items here.1)[here.2]?

/-- The positions after a step: it passes one item of each list, up to the first list that holds
nothing at its position. -/
def passed (s : Store) : List Nat → List Nat → List Nat
  | place :: places, position :: positions =>
    if position < (s.items place).size then (position + 1) :: s.passed places positions
    else position :: positions
  | _, positions => positions

variable {s : Store} {place position : Nat} {places positions : List Nat}

/-- A list that holds nothing at its position ends the row. -/
theorem row?_cons_of_le (short : (s.items place).size ≤ position) :
    s.row? (place :: places) (position :: positions) = none := by
  rw [row?, List.zip_cons_cons, List.mapM_cons, Array.getElem?_eq_none short]
  rfl

theorem row?_cons_of_lt (inside : position < (s.items place).size) :
    s.row? (place :: places) (position :: positions) =
      (s.row? places positions).map ((s.items place)[position] :: ·) := by
  rw [row?, List.zip_cons_cons, List.mapM_cons, Array.getElem?_eq_getElem inside, row?]
  cases (places.zip positions).mapM fun here => (s.items here.1)[here.2]? with
  | none => rfl
  | some vs => rfl

/-- **A whole row** passes an item of every list. -/
theorem passed_of_whole {vs : List Value} (same : places.length = positions.length)
    (whole : s.row? places positions = some vs) :
    s.passed places positions = positions.map (· + 1) := by
  induction places generalizing positions vs with
  | nil =>
    cases positions with
    | nil => rfl
    | cons => cases same
  | cons place places ih =>
    cases positions with
    | nil => cases same
    | cons position positions =>
      by_cases inside : position < (s.items place).size
      · rw [row?_cons_of_lt inside] at whole
        obtain ⟨rest, whole, _⟩ := Option.map_eq_some_iff.mp whole
        rw [passed, if_pos inside, ih (Nat.succ.inj same) whole, List.map_cons]
      · rw [row?_cons_of_le (Nat.le_of_not_lt inside)] at whole
        cases whole

/-- **A row that is broken off** has passed an item of the lists in front, and not of the last. -/
theorem passed_of_broken (same : places.length = positions.length)
    (broken : s.row? places positions = none) :
    ∃ count < positions.length,
      s.passed places positions = (positions.take count).map (· + 1) ++ positions.drop count := by
  induction places generalizing positions with
  | nil => cases broken
  | cons place places ih =>
    cases positions with
    | nil => cases same
    | cons position positions =>
      by_cases inside : position < (s.items place).size
      · rw [row?_cons_of_lt inside, Option.map_eq_none_iff] at broken
        obtain ⟨count, within, moved⟩ := ih (Nat.succ.inj same) broken
        refine ⟨count + 1, Nat.succ_lt_succ within, ?_⟩
        rw [passed, if_pos inside, moved]
        rfl
      · exact ⟨0, Nat.succ_pos _, by rw [passed, if_neg inside]; rfl⟩

/-- A row whose first list is at its end passes nothing. -/
theorem passed_of_le (short : (s.items place).size ≤ position) :
    s.passed (place :: places) (position :: positions) = position :: positions := by
  rw [passed, if_neg (Nat.not_lt_of_le short)]

theorem length_passed (same : places.length = positions.length) :
    (s.passed places positions).length = positions.length := by
  cases row : s.row? places positions with
  | some vs => rw [passed_of_whole same row, List.length_map]
  | none =>
    obtain ⟨count, within, moved⟩ := passed_of_broken same row
    rw [moved, List.length_append, List.length_map, List.length_take, List.length_drop]
    omega

end Store

/-! ### What a step makes of the positions -/

namespace Cursor

variable {s : Store} {places positions : List Nat}

/-- **A step of cursors in lists** takes the row at their positions, or what of it there is. -/
theorem nextAll_live (same : places.length = positions.length) :
    nextAll s (List.zipWith .live places positions) =
      ((s.row? places positions).map (·.map .object),
        List.zipWith .live places (s.passed places positions)) := by
  induction places generalizing positions with
  | nil =>
    cases positions with
    | nil => rfl
    | cons => cases same
  | cons place places ih =>
    cases positions with
    | nil => cases same
    | cons position positions =>
      rw [List.zipWith_cons_cons, nextAll, next]
      by_cases inside : position < (s.items place).size
      · rw [Array.getElem?_eq_getElem inside, ih (Nat.succ.inj same),
          Store.row?_cons_of_lt inside, Store.passed, if_pos inside, List.zipWith_cons_cons]
        cases s.row? places positions <;> rfl
      · have short := Nat.le_of_not_lt inside
        rw [Array.getElem?_eq_none short, Store.row?_cons_of_le short, Store.passed_of_le short]
        rfl

/-- A step of a zip of lists takes the row at the positions. -/
theorem next_zip {place : Nat} (same : (place :: places).length = positions.length) :
    next s (.rows (List.zipWith .live (place :: places) positions)) =
      ((s.row? (place :: places) positions).map fun vs => .row (vs.map .object),
        .rows (List.zipWith .live (place :: places) (s.passed (place :: places) positions))) := by
  have nonempty : List.zipWith Cursor.live (place :: places) positions ≠ [] := by
    cases positions with
    | nil => cases same
    | cons => exact List.cons_ne_nil _ _
  rw [next_rows s nonempty, nextAll_live same]
  cases s.row? (place :: places) positions <;> rfl

end Cursor

namespace Store

/-- A cursor at the start of each list. -/
theorem cursors_lists (s : Store) (places : List Nat) :
    s.cursors (places.map .list) =
      .ok (List.zipWith .live places (List.replicate places.length 0)) := by
  induction places with
  | nil => rfl
  | cons place places ih =>
    rw [List.map_cons, cursors, ih]
    rfl

end Store

/-- The answer that a row is, if there is one: a new tuple. -/
def Answer.ofRow (s : Store) : Option (List Value) → Answer
  | some vs => .value (.tuple s.next vs)
  | none => .exhausted

theorem Answer.ofItem_row (s : Store) (row : Option (List Value)) :
    ofItem s (row.map fun vs => .row (vs.map .object)) = ofRow s row := by
  cases row with
  | none => rfl
  | some vs =>
    rw [Option.map_some, ofItem, Item.create, Item.createAll_objects]
    rfl

/-! ### Positions in a whole run -/

/-- The step asks the cursor of that name for an element. -/
def Step.asks (name : String) : Step → Bool
  | .next cursor => cursor = name
  | _ => false

theorem Step.asks_iff {name : String} {step : Step} :
    step.asks name = true ↔ step = .next name := by
  cases step with
  | next cursor => simp [asks]
  | _ => simp [asks]

namespace Machine

variable {m : Machine} {name : String} {place : Nat} {places positions : List Nat}

/-- The positions of the cursor of that name after the program. -/
def positionsAfter (name : String) (places : List Nat) (m : Machine) (positions : List Nat) :
    Program → List Nat
  | [] => positions
  | (target, step) :: rest =>
    positionsAfter name places (m.run target step).2
      (if step.asks name then m.world.store.passed places positions else positions) rest

/-- Whenever the cursor of that name has nothing to yield, the list is no longer than the number of
rows until then. -/
def EndsFirst (name : String) (place : Nat) (m : Machine) (count : Nat) : Program → Prop
  | [] => True
  | (target, step) :: rest =>
    let outcome := (m.run target step).1.outcome
    (step = .next name → outcome = .ok .exhausted → (m.world.store.items place).size ≤ count) ∧
      EndsFirst name place (m.run target step).2 (count + (step.yields name outcome).length) rest

/-- A step of a zip of lists answers the row at the positions. -/
theorem run_next_zip (same : (place :: places).length = positions.length)
    (found : lookup name m.cursors =
      some (.rows (List.zipWith .live (place :: places) positions))) (target : Option String) :
    (m.run target (.next name)).1.outcome =
      .ok (.ofRow m.world.store (m.world.store.row? (place :: places) positions)) := by
  rw [run_next_outcome found, Cursor.next_zip same, Answer.ofItem_row]

/-- **The cursor stands at the positions** that the program leads to. -/
theorem lookup_runs_zip (sound : m.Sound) (same : (place :: places).length = positions.length)
    (found : lookup name m.cursors =
      some (.rows (List.zipWith .live (place :: places) positions)))
    {program : Program} (kept : m.Throughout (Keeps name) program) :
    (m.positionsAfter name (place :: places) positions program).length = positions.length ∧
    lookup name (m.runs program).cursors = some (.rows (List.zipWith .live (place :: places)
      (m.positionsAfter name (place :: places) positions program))) := by
  induction program generalizing m positions with
  | nil => exact ⟨rfl, found⟩
  | cons first rest ih =>
    obtain ⟨target, step⟩ := first
    obtain ⟨kept, later⟩ := kept
    have sound' := run_sound sound target step
    rw [positionsAfter]
    split
    case isTrue asks =>
      cases Step.asks_iff.mp asks
      have length := Store.length_passed (s := m.world.store) same
      have found' := lookup_run_next sound found target
      rw [Cursor.next_zip same] at found'
      rw [← length]
      exact ih sound' (same.trans length.symm) found' later
    case isFalse other =>
      have different := fun next => other (Step.asks_iff.mpr next)
      exact ih sound' same ((lookup_run sound kept different).trans found) later

/-- **What lasts through rows and broken rows lasts through programs**, with the number of rows. -/
theorem positions_runs (Holds : List Nat → Nat → Prop)
    (whole : ∀ {positions : List Nat} {count : Nat}, Holds positions count →
      Holds (positions.map (· + 1)) (count + 1))
    (broken : ∀ {positions : List Nat} {count reach : Nat}, reach < positions.length →
      Holds positions count →
      Holds ((positions.take reach).map (· + 1) ++ positions.drop reach) count)
    (sound : m.Sound) (same : (place :: places).length = positions.length)
    (found : lookup name m.cursors =
      some (.rows (List.zipWith .live (place :: places) positions)))
    {program : Program} (kept : m.Throughout (Keeps name) program) {count : Nat}
    (holds : Holds positions count) :
    Holds (m.positionsAfter name (place :: places) positions program)
      (count + (m.yielded name program).length) := by
  induction program generalizing m positions count with
  | nil => exact holds
  | cons first rest ih =>
    obtain ⟨target, step⟩ := first
    have sound' := run_sound sound target step
    have alone : m.Throughout (Keeps name) [(target, step)] := ⟨kept.1, trivial⟩
    have moved := lookup_runs_zip sound same found alone
    rw [positionsAfter, positionsAfter] at moved
    rw [positionsAfter, yielded, List.length_append, ← Nat.add_assoc]
    refine ih sound' (same.trans moved.1.symm) moved.2 kept.2 ?_
    split
    case isTrue asks =>
      cases Step.asks_iff.mp asks
      rw [run_next_zip same found]
      cases row : m.world.store.row? (place :: places) positions with
      | some vs =>
        rw [Store.passed_of_whole same row, Answer.ofRow, Step.yields, if_pos rfl]
        exact whole holds
      | none =>
        obtain ⟨reach, within, passed⟩ := Store.passed_of_broken same row
        rw [passed]
        exact broken within holds
    case isFalse other =>
      rw [Step.yields_of_ne fun next => other (Step.asks_iff.mpr next)]
      exact holds

/-- Positions that do not rise from left to right, and the last of them is the number of rows. -/
structure Staggered (positions : List Nat) (count : Nat) : Prop where
  falling : positions.Pairwise (· ≥ ·)
  last : positions.getLast? = some count

theorem Staggered.whole {count : Nat} (staggered : Staggered positions count) :
    Staggered (positions.map (· + 1)) (count + 1) where
  falling := List.pairwise_map.mpr (staggered.falling.imp Nat.succ_le_succ)
  last := by rw [List.getLast?_map, staggered.last, Option.map_some]

theorem Staggered.broken {count reach : Nat} (within : reach < positions.length)
    (staggered : Staggered positions count) :
    Staggered ((positions.take reach).map (· + 1) ++ positions.drop reach) count where
  falling := by
    have falling := staggered.falling
    rw [← List.take_append_drop reach positions, List.pairwise_append] at falling
    obtain ⟨front, back, across⟩ := falling
    refine List.pairwise_append.mpr ⟨List.pairwise_map.mpr (front.imp Nat.succ_le_succ), back, ?_⟩
    rintro after member behind there
    obtain ⟨before, there', rfl⟩ := List.mem_map.mp member
    exact Nat.le_succ_of_le (across before there' behind there)
  last := by
    rw [List.getLast?_append, List.getLast?_drop, if_neg (Nat.not_le_of_lt within), staggered.last]
    rfl

/-- Some list is further than the number of rows. -/
def Ahead (positions : List Nat) (count : Nat) : Prop := ∃ position ∈ positions, count < position

theorem Ahead.whole {count : Nat} (ahead : Ahead positions count) :
    Ahead (positions.map (· + 1)) (count + 1) := by
  obtain ⟨position, member, further⟩ := ahead
  exact ⟨position + 1, List.mem_map_of_mem member, Nat.succ_lt_succ further⟩

theorem Ahead.broken {count reach : Nat} (ahead : Ahead positions count) :
    Ahead ((positions.take reach).map (· + 1) ++ positions.drop reach) count := by
  obtain ⟨position, member, further⟩ := ahead
  rw [← List.take_append_drop reach positions, List.mem_append] at member
  rcases member with front | back
  · exact ⟨position + 1, List.mem_append_left _ (List.mem_map_of_mem front),
      Nat.lt_succ_of_lt further⟩
  · exact ⟨position, List.mem_append_right _ back, further⟩

/-- **The positions are one and the same** exactly if every end was found before an item of the
first list was passed. -/
theorem endsFirst_iff (sound : m.Sound) {count : Nat}
    (found : lookup name m.cursors = some (.rows (List.zipWith .live (place :: places)
      (List.replicate (places.length + 1) count))))
    {program : Program} (kept : m.Throughout (Keeps name) program) :
    m.EndsFirst name place count program ↔
      ∀ position ∈ m.positionsAfter name (place :: places)
        (List.replicate (places.length + 1) count) program,
        position = count + (m.yielded name program).length := by
  induction program generalizing m count with
  | nil => exact iff_of_true trivial fun _ member => List.eq_of_mem_replicate member
  | cons first rest ih =>
    obtain ⟨target, step⟩ := first
    have sound' := run_sound sound target step
    have same : (place :: places).length = (List.replicate (places.length + 1) count).length :=
      List.length_replicate.symm
    by_cases asks : step = .next name
    case neg =>
      have unmoved : ¬step.asks name = true := mt Step.asks_iff.mp asks
      have found' := (lookup_run sound kept.1 asks).trans found
      rw [EndsFirst, positionsAfter, yielded, if_neg unmoved, Step.yields_of_ne asks]
      exact (and_iff_right fun asked => absurd asked asks).trans (ih sound' found' kept.2)
    case pos =>
      subst asks
      have found' := lookup_run_next sound found target
      have answered := run_next_zip same found target
      rw [Cursor.next_zip same] at found'
      rw [EndsFirst, positionsAfter, yielded, if_pos (Step.asks_iff.mpr rfl), List.length_append,
        ← Nat.add_assoc]
      rw [answered]
      cases row : m.world.store.row? (place :: places)
        (List.replicate (places.length + 1) count) with
      | some vs =>
        rw [Store.passed_of_whole same row, List.map_replicate] at found' ⊢
        rw [Answer.ofRow, Step.yields, if_pos rfl]
        refine (and_iff_right fun _ ended => ?_).trans (ih sound' found' kept.2)
        cases ended
      | none =>
        rw [Answer.ofRow]
        by_cases short : (m.world.store.items place).size ≤ count
        · rw [List.replicate_succ, Store.passed_of_le short, ← List.replicate_succ] at found' ⊢
          exact (and_iff_right fun _ _ => short).trans (ih sound' found' kept.2)
        · -- The first list is past an item that is in no row.
          refine iff_of_false (fun ends => short (ends.1 rfl rfl)) fun aligned => ?_
          have ahead : Ahead (m.world.store.passed (place :: places)
              (List.replicate (places.length + 1) count)) count := by
            rw [List.replicate_succ, Store.passed, if_pos (Nat.lt_of_not_le short)]
            exact ⟨count + 1, List.mem_cons_self, Nat.lt_succ_self count⟩
          have length := Store.length_passed (s := m.world.store) same
          obtain ⟨position, member, further⟩ := positions_runs Ahead Ahead.whole
            (fun _ => Ahead.broken) sound' (same.trans length.symm) found' kept.2 ahead
          exact Nat.ne_of_gt further (aligned position member)

/-- **Rows of lists are taken from positions that can drift apart.** A cursor is opened on a zip of
lists; then comes any program that opens no other cursor of its name. A step of the cursor then
answers the row of what the lists hold at the positions that the program has led to, or that there
is nothing if one of them holds nothing at its own. Positions do not rise from left to right; that
in the last list is the number of rows yielded; and they are all the same exactly if, whenever the
cursor had nothing to yield, the first list held nothing behind the rows yielded until then. -/
theorem zip_rows_positions (reachable : m.Reachable) {on : Operand} {id : Nat} {made : Machine}
    (ran : m.withoutOutput.perform (on.make m.bindings) =
      (.ok (.zip id ((place :: places).map .list)), made))
    (target again : Option String) (during : Program)
    (kept : (m.run target (.iterate on name)).2.Throughout (Keeps name) during) :
    let opened := m.run target (.iterate on name)
    let now := opened.2.runs during
    let count := (opened.2.yielded name during).length
    let positions := opened.2.positionsAfter name (place :: places)
      (List.replicate (places.length + 1) 0) during
    opened.1.outcome = .ok .nothing ∧
      (now.run again (.next name)).1.outcome =
        .ok (.ofRow now.world.store (now.world.store.row? (place :: places) positions)) ∧
      positions.length = places.length + 1 ∧
      positions.Pairwise (· ≥ ·) ∧
      positions.getLast? = some count ∧
      ((∀ position ∈ positions, position = count) ↔ opened.2.EndsFirst name place 0 during) := by
  intro opened now count positions
  have sound' : opened.2.Sound := run_sound reachable.sound target _
  have started : made.world.store.cursor (.zip id ((place :: places).map .list)) =
      .ok (.rows (List.zipWith .live (place :: places)
        (List.replicate (places.length + 1) 0))) := by
    rw [Store.cursor, Store.cursors_lists]
    rfl
  obtain ⟨outcome, reached⟩ := run_iterate ran started name target
  have found : lookup name opened.2.cursors = some (.rows (List.zipWith .live (place :: places)
      (List.replicate (places.length + 1) 0))) := by
    rw [reached]
    exact lookup_rebind_self name _ made.cursors
  have same : (place :: places).length = (List.replicate (places.length + 1) 0).length :=
    List.length_replicate.symm
  obtain ⟨length, stands⟩ := lookup_runs_zip sound' same found kept
  have start : Staggered (List.replicate (places.length + 1) 0) 0 :=
    ⟨List.pairwise_replicate.mpr (.inr (Nat.le_refl 0)), List.getLast?_replicate⟩
  have staggered :=
    positions_runs Staggered Staggered.whole Staggered.broken sound' same found kept start
  have aligned := endsFirst_iff sound' found kept
  rw [Nat.zero_add] at staggered aligned
  exact ⟨outcome, run_next_zip (same.trans length.symm) stands again,
    length.trans List.length_replicate, staggered.falling, staggered.last, aligned.symm⟩

/-- A list of two numbers, one of a single number, and the zip of them. -/
def paired : Machine :=
  (start .accepting).runs
    [(some "left", .bind (.list [.int 1, .int 2])), (some "right", .bind (.list [.int 10])),
      (some "rows", .call "zip" [.variable "left", .variable "right"])]

/-- The cursor moves to the end of the shorter list and once more; then both lists grow. -/
def overrunning : Program :=
  [(none, .next "rows"), (none, .next "rows"), (none, .append (.variable "left") (.int 3)),
    (none, .append (.variable "right") (.int 20))]

/-- After one row the positions are 2 and 1, and an end was found behind an item of the first
list. -/
theorem zip_rows_positions_overrunning :
    let opened := paired.run none (.iterate (.variable "rows") "rows")
    paired.Reachable ∧
      paired.withoutOutput.perform (Operand.make paired.bindings (.variable "rows")) =
        (.ok (.zip 3 [.list 0, .list 1]), paired.withoutOutput) ∧
      opened.2.Throughout (Keeps "rows") overrunning ∧
      opened.2.positionsAfter "rows" [0, 1] [0, 0] overrunning = [2, 1] ∧
      ((opened.2.runs overrunning).run none (.next "rows")).1.outcome =
        .ok (.value (.tuple 7 [.int 5 3, .int 6 20])) ∧
      ¬opened.2.EndsFirst "rows" 0 0 overrunning := by
  have reachable : paired.Reachable := ⟨.accepting, _, rfl⟩
  have kept : (paired.run none (.iterate (.variable "rows") "rows")).2.Throughout (Keeps "rows")
      overrunning := ⟨rfl, rfl, rfl, rfl, trivial⟩
  have moved : (paired.run none (.iterate (.variable "rows") "rows")).2.positionsAfter "rows" [0, 1]
      [0, 0] overrunning = [2, 1] := rfl
  have rows : ((paired.run none (.iterate (.variable "rows") "rows")).2.yielded "rows"
      overrunning).length = 1 := rfl
  have zipped : paired.withoutOutput.perform (Operand.make paired.bindings (.variable "rows")) =
      (.ok (.zip 3 ((0 :: [1]).map .list)), paired.withoutOutput) := rfl
  obtain ⟨_, row, _, _, _, aligned⟩ :=
    zip_rows_positions reachable zipped none none overrunning kept
  refine ⟨reachable, zipped, kept, moved, row, fun ends => ?_⟩
  have same := aligned.mpr ends 2 (moved ▸ List.mem_cons_self)
  rw [rows] at same
  cases same

/-- **A row that is no row of the lists**: no position holds its first component in the one list and
its second component in the other. -/
theorem zip_rows_fall_apart :
    let opened := (paired.run none (.iterate (.variable "rows") "rows")).2
    let now := opened.runs overrunning
    ∃ a b, (now.run none (.next "rows")).1.outcome = .ok (.value (.tuple 7 [a, b])) ∧
      (now.world.store.items 0)[2]? = some a ∧ (now.world.store.items 1)[1]? = some b ∧
      ¬∃ k : Nat, (now.world.store.items 0)[k]? = some a ∧
        (now.world.store.items 1)[k]? = some b := by
  have left : ((paired.run none (.iterate (.variable "rows") "rows")).2.runs
      overrunning).world.store.items 0 = #[.int 0 1, .int 1 2, .int 5 3] := rfl
  have right : ((paired.run none (.iterate (.variable "rows") "rows")).2.runs
      overrunning).world.store.items 1 = #[.int 2 10, .int 6 20] := rfl
  refine ⟨.int 5 3, .int 6 20, rfl, by rw [left]; rfl, by rw [right]; rfl, ?_⟩
  rw [left, right]
  rintro ⟨k, first, second⟩
  match k with
  | 0 | 1 => cases first
  | k + 2 => cases second

end Machine

end CallConsole
