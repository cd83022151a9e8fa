/-
**Reading back the text of a value.**

The text of an acyclic value of plain parts is a source for the value: evaluated in any world, it
prints nothing and gives a value with the same tree.
-/

import CallConsole.Proofs.Parsing

namespace CallConsole

namespace Store

/-- The two values, each in its own store, are structurally identical: they have the same tree, so
the kinds and contents of their parts agree at every position, the entries of dicts in their
order. -/
def Identical (s s' : Store) (v v' : Value) : Prop := ∃ t, s.Unfolds v t ∧ s'.Unfolds v' t

/-- Structurally identical values have the same text. -/
theorem Identical.repr_eq {s s' : Store} {v v' : Value} (identical : s.Identical s' v v') :
    s'.repr v' = s.repr v := by
  obtain ⟨t, first, second⟩ := identical
  rw [repr_of_unfolds first, repr_of_unfolds second]

/-- **Evaluating the text of a value gives the value back.** The value is acyclic, and everything in
it is plain. -/
theorem evalSource_repr (s : Store) (v : Value) (w : World) (acyclic : s.Acyclic v)
    (plain : ∀ u, s.Reaches v u → u.Plain) :
    ∃ v' w', Console.evalSource (s.repr v) w = .ok v' w' ∧ w'.sink = w.sink ∧
      s.Identical w'.store v v' ∧ w'.store.repr v' = s.repr v := by
  obtain ⟨t, unfolds⟩ := exists_unfolds acyclic plain
  obtain ⟨e, parsed, yields⟩ := Parsing.parse_text (unfolds.readable plain)
  obtain ⟨v', w', evaluated, builds⟩ := yields w
  have identical : s.Identical w'.store v v' :=
    ⟨t, unfolds, builds.lasting w'.store (.refl w'.store)⟩
  refine ⟨v', w', ?_, builds.sink, identical, identical.repr_eq⟩
  rw [repr_of_unfolds unfolds, Console.evalSource, parsed]
  exact evaluated

/-- A list of a dict and a tuple: the dict has a range under a key with a quote and a line end, the
tuple the least integer as its single item. -/
def nestedStore : Store where
  lists := #[#[.dict 0, .tuple 0 [.int 1 (-9223372036854775808)]]]
  dicts := #[⟨[⟨.str ['\'', '\n'], .str 2 ['\'', '\n'], .range 3 ⟨5, 0, -1, by decide⟩, rfl⟩],
    by simp⟩]
  next := 4

/-- The tree of the nested list. -/
def nestedTree : Tree :=
  .list [.dict [(.str ['\'', '\n'], .range ⟨5, 0, -1, by decide⟩)],
    .tuple [.int (-9223372036854775808)]]

theorem unfolds_nested : nestedStore.Unfolds (.list 0) nestedTree :=
  .list (.cons (.dict (.cons (.str _ _) (.range _ _) .nil))
    (.cons (.tuple _ (.cons (.int _ _) .nil)) .nil))

/-- The nested list is read back in the empty world. -/
theorem evalSource_repr_nested :
    nestedStore.Acyclic (.list 0) ∧ (∀ u, nestedStore.Reaches (.list 0) u → u.Plain) ∧
      ∃ v' w', Console.evalSource (nestedStore.repr (.list 0)) World.empty = .ok v' w' ∧
        w'.sink = World.empty.sink ∧ nestedStore.Identical w'.store (.list 0) v' ∧
        w'.store.repr v' = nestedStore.repr (.list 0) := by
  have text : (Tree.str ['\'', '\n']).Readable := by
    show ∀ c ∈ ['\'', '\n'], Quoted.isControl c = true → c ∈ ['\n', '\r', '\t']
    exact List.all_iff_forall_prop.mp rfl
  have readable : nestedTree.Readable :=
    ⟨⟨⟨text, trivial, trivial⟩, [.str ['\'', '\n']], rfl, by simp⟩, ⟨trivial, trivial⟩, trivial⟩
  have acyclic := unfolds_nested.acyclic
  have plain := unfolds_nested.plain readable
  exact ⟨acyclic, plain, evalSource_repr nestedStore (.list 0) World.empty acyclic plain⟩

end Store

end CallConsole
