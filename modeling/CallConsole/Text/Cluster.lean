/-
**Clusters of characters.**

A text divides into extended grapheme clusters: the runs that a reader takes for one character each.
Whether a character continues the cluster before it depends on the two classes, and for pictographs,
flags and conjuncts on what was read before:

* `flatten_clusters`: the clusters of a text, one after another, are the text.
-/

import CallConsole.Text.ClusterBreak

namespace CallConsole

namespace Cluster

/-- How far a run of joined pictographs has come. -/
inductive Chain where
  | none
  /-- A pictograph, and marks behind it. -/
  | pictograph
  /-- The same with a joiner at the end. -/
  | joined
deriving DecidableEq

/-- How far a conjunct has come. -/
inductive Conjunct where
  | none
  /-- A consonant, and marks behind it. -/
  | consonant
  /-- The same with at least one linker among the marks. -/
  | linked
deriving DecidableEq

/-- What is known of the characters that were read. -/
structure Progress where
  last : ClusterBreak
  chain : Chain
  /-- An odd number of flag halves stands at the end. -/
  halfFlag : Bool
  conjunct : Conjunct

/-- Nothing was read, so nothing can be continued. -/
def Progress.start : Progress := ⟨.control, .none, false, .none⟩

/-- The chain of pictographs after a character of the given class. -/
def Chain.next (chain : Chain) : ClusterBreak → Chain
  | .pictograph => .pictograph
  | .extend | .linker | .nonJoiner => if chain = .pictograph then .pictograph else .none
  | .joiner => if chain = .pictograph then .joined else .none
  | _ => .none

/-- The conjunct after a character of the given class. -/
def Conjunct.next (conjunct : Conjunct) : ClusterBreak → Conjunct
  | .consonant => .consonant
  | .linker => if conjunct = .none then .none else .linked
  | .extend | .joiner => conjunct
  | _ => .none

namespace Progress

/-- What is known after a character of the given class. -/
def next (p : Progress) (kind : ClusterBreak) : Progress :=
  ⟨kind, p.chain.next kind, kind = .regionalIndicator && !p.halfFlag,
    p.conjunct.next kind⟩

/-- **A character of the given class continues the cluster before it.** -/
def continues (p : Progress) (kind : ClusterBreak) : Bool :=
  match p.last, kind with
  | .carriageReturn, .lineFeed => true
  | .control, _ | .carriageReturn, _ | .lineFeed, _ => false
  | _, .control | _, .carriageReturn | _, .lineFeed => false
  | .leading, .leading | .leading, .vowel | .leading, .openSyllable
  | .leading, .closedSyllable => true
  | .openSyllable, .vowel | .openSyllable, .trailing | .vowel, .vowel | .vowel, .trailing => true
  | .closedSyllable, .trailing | .trailing, .trailing => true
  | _, .extend | _, .linker | _, .joiner | _, .nonJoiner | _, .spacingMark => true
  | .prepended, _ => true
  | _, .consonant => p.conjunct = .linked
  | _, .pictograph => p.chain = .joined
  | .regionalIndicator, .regionalIndicator => p.halfFlag
  | _, _ => false

end Progress

/-- The clusters of a text that follows what was read; the first of them may continue a cluster
before it, which the flag tells. -/
def split (p : Progress) : List Char → Bool × List (List Char)
  | [] => (false, [])
  | c :: rest =>
    let kind := ClusterBreak.of c
    let continued := p.continues kind
    match split (p.next kind) rest with
    | (true, cluster :: more) => (continued, (c :: cluster) :: more)
    | (_, others) => (continued, [c] :: others)

/-- The clusters that are split off are the text. -/
theorem flatten_split (p : Progress) (text : List Char) : (split p text).2.flatten = text := by
  induction text generalizing p with
  | nil => rfl
  | cons c rest ih =>
    have tail := ih (p.next (ClusterBreak.of c))
    rw [split]
    split
    case h_1 equal =>
      rw [equal] at tail
      simpa using tail
    case h_2 equal =>
      rw [equal] at tail
      simpa using tail

end Cluster

/-- **The clusters of a text.** -/
def clusters (text : List Char) : List (List Char) := (Cluster.split .start text).2

/-- **The clusters of a text, one after another, are the text.** -/
theorem flatten_clusters (text : List Char) : (clusters text).flatten = text :=
  Cluster.flatten_split .start text

end CallConsole
