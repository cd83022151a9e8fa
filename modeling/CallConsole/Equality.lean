/-
**Equality of values.**

Lists and dicts may hold themselves, so equality keeps the pairs of containers that it is inside of.
A pair met again below itself is taken to be equal; whether the two are equal is then decided by the
rest of them. Every nested pair of containers is a new one of finitely many, so the recursion ends.
-/

import CallConsole.Number
import CallConsole.Visiting

namespace CallConsole

/-- Two containers of one kind that are being compared. -/
inductive ContainerPair where
  | lists (left right : Nat)
  | dicts (left right : Nat)
deriving DecidableEq

namespace Store

/-- All pairs of lists and all pairs of dicts of the store. -/
def containerPairs (s : Store) : List ContainerPair :=
  ((List.range s.lists.size).flatMap fun left =>
    (List.range s.lists.size).map fun right => .lists left right) ++
  (List.range s.dicts.size).flatMap fun left =>
    (List.range s.dicts.size).map fun right => .dicts left right

/-- Two lists of the store are a pair of them. -/
theorem mem_containerPairs_lists {s : Store} {left right : Nat} (first : left < s.lists.size)
    (second : right < s.lists.size) : .lists left right ∈ s.containerPairs := by
  simp [containerPairs, first, second]

/-- Two dicts of the store are a pair of them. -/
theorem mem_containerPairs_dicts {s : Store} {left right : Nat} (first : left < s.dicts.size)
    (second : right < s.dicts.size) : .dicts left right ∈ s.containerPairs := by
  simp [containerPairs, first, second]

mutual

/-- Equality of two values inside the given pairs of containers. -/
def equalInside (s : Store) (active : List ContainerPair) (left right : Value) : Bool :=
  match Number.of? left, Number.of? right with
  | some a, some b => a.order? b = some .eq
  | _, _ =>
    match left, right with
    | .null _, .null _ => true
    | .str _ a, .str _ b => a = b
    | .tuple _ xs, .tuple _ ys => equalItems s active xs ys
    | .list i, .list j =>
      if i = j ∨ .lists i j ∈ active then true
      else if _inside : i < s.lists.size ∧ j < s.lists.size then
        equalItems s (.lists i j :: active) (s.items i).toList (s.items j).toList
      else (s.items i).isEmpty && (s.items j).isEmpty
    | .dict i, .dict j =>
      if i = j ∨ .dicts i j ∈ active then true
      else if _inside : i < s.dicts.size ∧ j < s.dicts.size then
        (s.contents i).length = (s.contents j).length &&
          equalEntries s (.dicts i j :: active) (s.contents i).entries (s.contents j)
      else (s.contents i).entries.isEmpty && (s.contents j).entries.isEmpty
    | .range _ a, .range _ b => a.sameElements b
    | .reversed i _, .reversed j _ | .reversed i _, .reversedRange j _
    | .reversedRange i _, .reversed j _ | .reversedRange i _, .reversedRange j _
    | .enumerate i _ _, .enumerate j _ _ | .zip i _, .zip j _ => i = j
    | _, _ => false
termination_by (outside s.containerPairs active, sizeOf left)
decreasing_by
  · exact Prod.Lex.right _ (by simp +arith)
  · exact Prod.Lex.left _ _ (outside_cons_lt
      (mem_containerPairs_lists _inside.1 _inside.2) fun member => ‹¬ (_ ∨ _)› (.inr member))
  · exact Prod.Lex.left _ _ (outside_cons_lt
      (mem_containerPairs_dicts _inside.1 _inside.2) fun member => ‹¬ (_ ∨ _)› (.inr member))

/-- Two sequences have the same length and equal items. -/
def equalItems (s : Store) (active : List ContainerPair) : List Value → List Value → Bool
  | [], [] => true
  | x :: xs, y :: ys => equalInside s active x y && equalItems s active xs ys
  | _, _ => false
termination_by xs => (outside s.containerPairs active, sizeOf xs)
decreasing_by
  all_goals exact Prod.Lex.right _ (by simp +arith)

/-- Every entry has an equal value under the same slot of another dict. -/
def equalEntries (s : Store) (active : List ContainerPair) : List Entry → Dict → Bool
  | [], _ => true
  | e :: rest, other =>
    (match other.valueAt? e.slot with
      | some theirs => equalInside s active e.value theirs
      | none => false) && equalEntries s active rest other
termination_by es => (outside s.containerPairs active, sizeOf es)
decreasing_by
  · exact Prod.Lex.right _ (by cases e; simp +arith)
  · exact Prod.Lex.right _ (by simp +arith)

end

/-- **Equality of values.** -/
def equal (s : Store) (left right : Value) : Bool := s.equalInside [] left right

end Store

end CallConsole
