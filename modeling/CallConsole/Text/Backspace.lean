/-
**Lines with backspaces.**

A backspace takes back the last cluster that was typed. The size of a cluster is remembered in one
byte, so of a cluster of `256` bytes or more only the remainder is taken back, and what is left of
it stays in the line. A remainder that begins inside a character cannot be taken back at all.

* `applyBackspaces_of_notMem`: a line without backspaces stays as it is.
-/

import CallConsole.Text.Cluster
import CallConsole.Text.Size

namespace CallConsole

/-- A line that is being typed. -/
structure Draft where
  /-- The text, from its end to its start. -/
  backwards : List Char
  /-- The sizes that are remembered of the clusters, the last one first. -/
  sizes : List Nat

namespace Draft

/-- The line before anything was typed. -/
def empty : Draft := ⟨[], []⟩

/-- The text of the line. -/
def text (d : Draft) : List Char := d.backwards.reverse

/-- The size of a cluster as it is remembered. -/
def rememberedSize (cluster : List Char) : Nat := byteLength cluster % 256

/-- One more cluster. -/
def type (d : Draft) (cluster : List Char) : Draft :=
  ⟨cluster.reverse ++ d.backwards, rememberedSize cluster :: d.sizes⟩

/-- The characters after the first `size` bytes, unless a character would be cut in two. -/
def dropBytes : Nat → List Char → Option (List Char)
  | 0, rest => some rest
  | _ + 1, [] => none
  | size + 1, c :: rest =>
    if c.utf8Size ≤ size + 1 then dropBytes (size + 1 - c.utf8Size) rest else none

/-- Takes back the last cluster, if there is one. -/
def takeBack (d : Draft) : Option Draft :=
  match d.sizes with
  | [] => some d
  | size :: sizes => (dropBytes size d.backwards).map fun backwards => ⟨backwards, sizes⟩

/-- Types clusters and takes back one for each backspace. -/
def enter (d : Draft) : List (List Char) → Option Draft
  | [] => some d
  | cluster :: rest =>
    if cluster = ['\x08'] then
      match d.takeBack with
      | some shorter => shorter.enter rest
      | none => none
    else (d.type cluster).enter rest

/-- Clusters that are no backspaces are added to the text. -/
theorem enter_of_notMem {parts : List (List Char)} (plain : ['\x08'] ∉ parts) (d : Draft) :
    ∃ entered, d.enter parts = some entered ∧ entered.text = d.text ++ parts.flatten := by
  induction parts generalizing d with
  | nil => exact ⟨d, rfl, by simp⟩
  | cons cluster rest ih =>
    have here : cluster ≠ ['\x08'] := fun equal => plain (equal ▸ List.mem_cons_self)
    have later : ['\x08'] ∉ rest := fun member => plain (List.mem_cons_of_mem _ member)
    obtain ⟨entered, run, text⟩ := ih later (d.type cluster)
    refine ⟨entered, ?_, ?_⟩
    · rw [enter, if_neg here, run]
    · rw [text]
      simp [Draft.text, type]

end Draft

/-- **A line as it was meant**, if each backspace can take back what it should. -/
def applyBackspaces (line : List Char) : Option (List Char) :=
  (Draft.empty.enter (clusters line)).map Draft.text

/-- **A line without backspaces stays as it is.** -/
theorem applyBackspaces_of_notMem {line : List Char} (plain : '\x08' ∉ line) :
    applyBackspaces line = some line := by
  have none : ['\x08'] ∉ clusters line := by
    intro member
    apply plain
    rw [← flatten_clusters line]
    exact List.mem_flatten.mpr ⟨['\x08'], member, List.mem_singleton_self _⟩
  obtain ⟨entered, run, text⟩ := Draft.enter_of_notMem none Draft.empty
  rw [flatten_clusters] at text
  rw [applyBackspaces, run, Option.map_some, text]
  rfl

end CallConsole
