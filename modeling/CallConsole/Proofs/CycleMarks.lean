/-
**Where the text of a value marks cycles.**

A picture of a value shows each list and dict in it written out, or as a mark. Many pictures show
one value; the text of the value is that of the picture that has marks exactly for lists and dicts
inside themselves. It does not matter whether they are written somewhere else too:

* `Picture.Occurs`: a part of a picture and the lists and dicts around it;
* `exists_depicts_inside`: the walk writes the text of such a picture;
* `Depicts.unique`: there is one such picture only;
* `Depicts.of_occurs`: a list or dict around a part has the value of the part inside;
* `repr_marks_exactly`: the text of a value, and the one of a value that is nowhere inside itself.
-/

import CallConsole.Proofs.Unfolding
import Mathlib.Data.List.Perm.Subperm

namespace CallConsole

/-! ### Pictures -/

/-- The text of a value that is no list, dict or tuple. -/
def Value.leafText? : Value → Option (List Char)
  | .null _ => some ['N', 'o', 'n', 'e']
  | .bool _ true => some ['T', 'r', 'u', 'e']
  | .bool _ false => some ['F', 'a', 'l', 's', 'e']
  | .int _ n => some n.text
  | .float _ x => some x.text
  | .str _ text => some (Quoted.encode text)
  | .range _ r => some r.text
  | .reversed .. | .reversedRange .. => some "<reversed object>".toList
  | .enumerate .. => some "<enumerate object>".toList
  | .zip .. => some "<zip object>".toList
  | .list _ | .dict _ | .tuple .. => none

/-- What a text shows of a value. Lists and dicts are told apart by their places in the store. -/
inductive Picture where
  | leaf (text : List Char)
  | list (place : Nat) (items : List Picture)
  | dict (place : Nat) (entries : List (Picture × Picture))
  | tuple (items : List Picture)
  /-- A list that is not written out. -/
  | listMark (place : Nat)
  /-- A dict that is not written out. -/
  | dictMark (place : Nat)

namespace Picture

mutual

/-- **The plain text of a picture.** -/
def text : Picture → List Char
  | .leaf text => text
  | .list _ ps => '[' :: commaSeparated (textAll ps) ++ [']']
  | .dict _ ps => '{' :: commaSeparated (textEntries ps) ++ ['}']
  | .tuple ps => '(' :: commaSeparated (textAll ps) ++ if ps.length = 1 then [',', ')'] else [')']
  | .listMark _ => ['[', '.', '.', '.', ']']
  | .dictMark _ => ['{', '.', '.', '.', '}']

/-- The texts of pictures. -/
def textAll : List Picture → List (List Char)
  | [] => []
  | p :: ps => text p :: textAll ps

/-- The texts of entries, each a key and a value with a colon between them. -/
def textEntries : List (Picture × Picture) → List (List Char)
  | [] => []
  | (k, p) :: ps => (text k ++ ':' :: ' ' :: text p) :: textEntries ps

end

/-- The list or dict that the picture shows. -/
def container? : Picture → Option Identity
  | .list place _ | .listMark place => some (.list place)
  | .dict place _ | .dictMark place => some (.dict place)
  | .leaf _ | .tuple _ => none

/-- The picture is a mark. -/
def IsMark : Picture → Prop
  | .listMark _ | .dictMark _ => True
  | .leaf _ | .list .. | .dict .. | .tuple _ => False

/-- **The part occurs in the picture**, with the lists and dicts of the path around it, the
outermost first. -/
inductive Occurs (part : Picture) : List Identity → Picture → Prop
  | whole : Occurs part [] part
  | item {path : List Identity} {place : Nat} {ps : List Picture} {p : Picture} :
      p ∈ ps → Occurs part path p → Occurs part (.list place :: path) (.list place ps)
  | key {path : List Identity} {place : Nat} {ps : List (Picture × Picture)}
      {entry : Picture × Picture} :
      entry ∈ ps → Occurs part path entry.1 → Occurs part (.dict place :: path) (.dict place ps)
  | value {path : List Identity} {place : Nat} {ps : List (Picture × Picture)}
      {entry : Picture × Picture} :
      entry ∈ ps → Occurs part path entry.2 → Occurs part (.dict place :: path) (.dict place ps)
  | element {path : List Identity} {ps : List Picture} {p : Picture} :
      p ∈ ps → Occurs part path p → Occurs part path (.tuple ps)

/-- **A list or dict is a mark exactly if it is one of those around it.** -/
def MarkedExactly (whole : Picture) : Prop :=
  ∀ (part : Picture) path container, part.Occurs path whole → part.container? = some container →
    (part.IsMark ↔ container ∈ path)

/-- The picture has no marks. -/
def Markless (whole : Picture) : Prop :=
  ∀ (part : Picture) path, part.Occurs path whole → ¬ part.IsMark

/-- A list or dict is a mark exactly if it is one of those around it, in the picture or around all
of it. -/
def MarkedInside (active : List Identity) (whole : Picture) : Prop :=
  ∀ (part : Picture) path container, part.Occurs path whole → part.container? = some container →
    (part.IsMark ↔ container ∈ active ∨ container ∈ path)

variable {active : List Identity} {place : Nat} {ps : List Picture}

theorem markedInside_nil {whole : Picture} : whole.MarkedInside [] ↔ whole.MarkedExactly := by
  simp only [MarkedInside, MarkedExactly, List.not_mem_nil, false_or]

/-! ### Marks in the parts of a picture -/

theorem markedInside_leaf (text : List Char) : (leaf text).MarkedInside active := by
  intro part path container occurs shows
  cases occurs
  cases shows

theorem markedInside_listMark : (listMark place).MarkedInside active ↔ .list place ∈ active := by
  constructor
  case mp =>
    intro marked
    rcases (marked _ [] _ .whole rfl).mp trivial with entered | entered
    · exact entered
    · cases entered
  case mpr =>
    intro entered part path container occurs shows
    cases occurs
    cases shows
    exact ⟨fun _ => .inl entered, fun _ => trivial⟩

theorem markedInside_dictMark : (dictMark place).MarkedInside active ↔ .dict place ∈ active := by
  constructor
  case mp =>
    intro marked
    rcases (marked _ [] _ .whole rfl).mp trivial with entered | entered
    · exact entered
    · cases entered
  case mpr =>
    intro entered part path container occurs shows
    cases occurs
    cases shows
    exact ⟨fun _ => .inl entered, fun _ => trivial⟩

/-- What is around the parts of a list or dict is the container too. -/
theorem markedInside_enter {whole part : Picture} {x : Identity}
    (enters : ∀ (inner : Picture) path, inner.Occurs path part → inner.Occurs (x :: path) whole)
    (marked : whole.MarkedInside active) : part.MarkedInside (x :: active) := by
  intro inner path container occurs shows
  rw [marked inner (x :: path) container (enters inner path occurs) shows, List.mem_cons,
    List.mem_cons, or_left_comm, or_assoc]

theorem markedInside_list : (list place ps).MarkedInside active ↔
    .list place ∉ active ∧ ∀ p ∈ ps, p.MarkedInside (.list place :: active) := by
  constructor
  case mp =>
    intro marked
    refine ⟨fun entered => ?_, fun p member => markedInside_enter ?_ marked⟩
    · exact (marked _ [] _ .whole rfl).mpr (.inl entered)
    · exact fun inner path occurs => .item member occurs
  case mpr =>
    rintro ⟨fresh, inside⟩ part path container occurs shows
    cases occurs with
    | whole =>
      cases shows
      exact ⟨False.elim, fun around => around.elim fresh List.not_mem_nil⟩
    | item member occurs =>
      rw [inside _ member part _ container occurs shows, List.mem_cons, List.mem_cons,
        or_left_comm, or_assoc]

theorem markedInside_dict {ps : List (Picture × Picture)} :
    (dict place ps).MarkedInside active ↔ .dict place ∉ active ∧ ∀ entry ∈ ps,
      entry.1.MarkedInside (.dict place :: active) ∧
        entry.2.MarkedInside (.dict place :: active) := by
  constructor
  case mp =>
    intro marked
    refine ⟨fun entered => ?_, fun entry member => ⟨markedInside_enter ?_ marked,
      markedInside_enter ?_ marked⟩⟩
    · exact (marked _ [] _ .whole rfl).mpr (.inl entered)
    · exact fun inner path occurs => .key member occurs
    · exact fun inner path occurs => .value member occurs
  case mpr =>
    rintro ⟨fresh, inside⟩ part path container occurs shows
    cases occurs with
    | whole =>
      cases shows
      exact ⟨False.elim, fun around => around.elim fresh List.not_mem_nil⟩
    | key member occurs =>
      rw [(inside _ member).1 part _ container occurs shows, List.mem_cons, List.mem_cons,
        or_left_comm, or_assoc]
    | value member occurs =>
      rw [(inside _ member).2 part _ container occurs shows, List.mem_cons, List.mem_cons,
        or_left_comm, or_assoc]

theorem markedInside_tuple :
    (tuple ps).MarkedInside active ↔ ∀ p ∈ ps, p.MarkedInside active := by
  constructor
  case mp =>
    intro marked p member part path container occurs
    exact marked part path container (.element member occurs)
  case mpr =>
    intro inside part path container occurs shows
    cases occurs with
    | whole => cases shows
    | element member occurs => exact inside _ member part path container occurs shows

end Picture

/-! ### Pictures of values -/

namespace Store

mutual

/-- **The picture shows the value.** Any list or dict in it may be a mark. -/
inductive Depicts (s : Store) : Value → Picture → Prop
  | leaf {v : Value} {text : List Char} : v.leafText? = some text → Depicts s v (.leaf text)
  | list {place : Nat} {ps : List Picture} :
      DepictsAll s (s.items place).toList ps → Depicts s (.list place) (.list place ps)
  | dict {place : Nat} {ps : List (Picture × Picture)} :
      DepictsEntries s (s.contents place).entries ps → Depicts s (.dict place) (.dict place ps)
  | tuple (id : Nat) {items : List Value} {ps : List Picture} :
      DepictsAll s items ps → Depicts s (.tuple id items) (.tuple ps)
  | listMark (place : Nat) : Depicts s (.list place) (.listMark place)
  | dictMark (place : Nat) : Depicts s (.dict place) (.dictMark place)

/-- The pictures show the values, one by one. -/
inductive DepictsAll (s : Store) : List Value → List Picture → Prop
  | nil : DepictsAll s [] []
  | cons {v : Value} {p : Picture} {vs : List Value} {ps : List Picture} :
      Depicts s v p → DepictsAll s vs ps → DepictsAll s (v :: vs) (p :: ps)

/-- The pictures show the keys and values of the entries, one by one. -/
inductive DepictsEntries (s : Store) : List Entry → List (Picture × Picture) → Prop
  | nil : DepictsEntries s [] []
  | cons {e : Entry} {k p : Picture} {es : List Entry} {ps : List (Picture × Picture)} :
      Depicts s e.key k → Depicts s e.value p → DepictsEntries s es ps →
      DepictsEntries s (e :: es) ((k, p) :: ps)

end

variable {s : Store} {active : List Identity} {v u : Value} {p : Picture}

/-! ### The walk writes a picture -/

/-- **The walk writes the picture** of the value, which has the right marks. -/
def Writes (s : Store) (active : List Identity) (v : Value) (p : Picture) : Prop :=
  s.Depicts v p ∧ p.MarkedInside active ∧ s.reprInside active v = p.text

theorem exists_writesAll {vs : List Value} (each : ∀ v ∈ vs, ∃ p, s.Writes active v p) :
    ∃ ps, s.DepictsAll vs ps ∧ (∀ p ∈ ps, p.MarkedInside active) ∧
      s.reprItems active vs = Picture.textAll ps ∧ vs.length = ps.length := by
  induction vs with
  | nil => exact ⟨[], .nil, List.forall_mem_nil _, by rw [reprItems, Picture.textAll], rfl⟩
  | cons v vs ih =>
    obtain ⟨p, depicts, marked, text⟩ := each v List.mem_cons_self
    obtain ⟨ps, all, others, texts, same⟩ := ih fun w member => each w (.tail v member)
    refine ⟨p :: ps, .cons depicts all, List.forall_mem_cons.mpr ⟨marked, others⟩, ?_, ?_⟩
    · rw [reprItems, Picture.textAll, text, texts]
    · rw [List.length_cons, List.length_cons, same]

theorem exists_writesEntries {es : List Entry}
    (each : ∀ e ∈ es, (∃ k, s.Writes active e.key k) ∧ ∃ p, s.Writes active e.value p) :
    ∃ ps, s.DepictsEntries es ps ∧
      (∀ entry ∈ ps, entry.1.MarkedInside active ∧ entry.2.MarkedInside active) ∧
      s.reprEntries active es = Picture.textEntries ps := by
  induction es with
  | nil => exact ⟨[], .nil, List.forall_mem_nil _, by rw [reprEntries, Picture.textEntries]⟩
  | cons e es ih =>
    obtain ⟨⟨k, key, marked, text⟩, p, value, marked', text'⟩ := each e List.mem_cons_self
    obtain ⟨ps, all, others, texts⟩ := ih fun f member => each f (.tail e member)
    refine ⟨(k, p) :: ps, .cons key value all, ?_, ?_⟩
    · exact List.forall_mem_cons.mpr ⟨⟨marked, marked'⟩, others⟩
    · rw [reprEntries, Picture.textEntries, text, text', texts]

/-- **Inside any containers, the walk writes a picture with the right marks.** -/
theorem exists_writes (s : Store) (active : List Identity) (v : Value) :
    ∃ p, s.Writes active v p := by
  match v with
  | .null id | .int id n | .float id x | .str id text | .range id r | .reversed id items
  | .reversedRange id r | .enumerate id source start | .zip id sources =>
    exact ⟨_, .leaf rfl, Picture.markedInside_leaf _, by rw [reprInside, Picture.text]⟩
  | .bool id b =>
    cases b
    all_goals exact ⟨_, .leaf rfl, Picture.markedInside_leaf _, by rw [reprInside, Picture.text]⟩
  | .tuple id items =>
    obtain ⟨ps, all, marked, texts, same⟩ := exists_writesAll fun w member =>
      exists_writes s active w
    refine ⟨.tuple ps, .tuple id all, Picture.markedInside_tuple.mpr marked, ?_⟩
    rw [reprInside, Picture.text, texts, same]
  | .list place =>
    by_cases entered : .list place ∈ active
    · refine ⟨.listMark place, .listMark place, Picture.markedInside_listMark.mpr entered, ?_⟩
      rw [reprInside, if_pos entered, Picture.text]
    · obtain ⟨ps, all, marked, texts, same⟩ :=
        exists_writesAll fun w (member : w ∈ (s.items place).toList) =>
          exists_writes s (.list place :: active) w
      refine ⟨.list place ps, .list all, Picture.markedInside_list.mpr ⟨entered, marked⟩, ?_⟩
      rw [reprInside, if_neg entered]
      split
      · rw [texts, Picture.text]
      · -- a list outside the store is empty
        next outside =>
          rw [items_eq_nil outside] at all
          cases all
          rfl
  | .dict place =>
    by_cases entered : .dict place ∈ active
    · refine ⟨.dictMark place, .dictMark place, Picture.markedInside_dictMark.mpr entered, ?_⟩
      rw [reprInside, if_pos entered, Picture.text]
    · obtain ⟨ps, all, marked, texts⟩ :=
        exists_writesEntries fun e (member : e ∈ (s.contents place).entries) =>
          ⟨exists_writes s (.dict place :: active) e.key,
            exists_writes s (.dict place :: active) e.value⟩
      refine ⟨.dict place ps, .dict all, Picture.markedInside_dict.mpr ⟨entered, marked⟩, ?_⟩
      rw [reprInside, if_neg entered]
      split
      · rw [texts, Picture.text]
      · next outside =>
          rw [entries_eq_nil outside] at all
          cases all
          rfl
termination_by (outside s.containers active, sizeOf v)
decreasing_by
  · have := List.sizeOf_lt_of_mem member
    exact Prod.Lex.right _ (by simp only [Value.tuple.sizeOf_spec]; omega)
  · exact Prod.Lex.left _ _ (outside_cons_lt (list_mem_containers (lt_size_of_mem_items member))
      entered)
  · exact Prod.Lex.left _ _ (outside_cons_lt (dict_mem_containers (lt_size_of_mem_entries member))
      entered)
  · exact Prod.Lex.left _ _ (outside_cons_lt (dict_mem_containers (lt_size_of_mem_entries member))
      entered)

/-! ### One picture has the right marks -/

mutual

/-- **A value has one picture with the right marks.** -/
theorem Depicts.unique {v : Value} {p p' : Picture} {active : List Identity}
    (first : s.Depicts v p) (second : s.Depicts v p') (marked : p.MarkedInside active)
    (marked' : p'.MarkedInside active) : p = p' := by
  cases first with
  | leaf text =>
    cases second with
    | leaf text' => rw [Option.some.inj (text.symm.trans text')]
    | _ => cases text
  | list all =>
    obtain ⟨fresh, inside⟩ := Picture.markedInside_list.mp marked
    cases second with
    | leaf text => cases text
    | list all' =>
      rw [DepictsAll.unique all all' inside (Picture.markedInside_list.mp marked').2]
    | listMark => exact absurd (Picture.markedInside_listMark.mp marked') fresh
  | dict all =>
    obtain ⟨fresh, inside⟩ := Picture.markedInside_dict.mp marked
    cases second with
    | leaf text => cases text
    | dict all' =>
      rw [DepictsEntries.unique all all' inside (Picture.markedInside_dict.mp marked').2]
    | dictMark => exact absurd (Picture.markedInside_dictMark.mp marked') fresh
  | tuple id all =>
    cases second with
    | leaf text => cases text
    | tuple _ all' =>
      rw [DepictsAll.unique all all' (Picture.markedInside_tuple.mp marked)
        (Picture.markedInside_tuple.mp marked')]
  | listMark place =>
    have entered := Picture.markedInside_listMark.mp marked
    cases second with
    | leaf text => cases text
    | list => exact absurd entered (Picture.markedInside_list.mp marked').1
    | listMark => rfl
  | dictMark place =>
    have entered := Picture.markedInside_dictMark.mp marked
    cases second with
    | leaf text => cases text
    | dict => exact absurd entered (Picture.markedInside_dict.mp marked').1
    | dictMark => rfl

theorem DepictsAll.unique {vs : List Value} {ps ps' : List Picture} {active : List Identity}
    (first : s.DepictsAll vs ps) (second : s.DepictsAll vs ps')
    (marked : ∀ p ∈ ps, p.MarkedInside active) (marked' : ∀ p ∈ ps', p.MarkedInside active) :
    ps = ps' := by
  cases first with
  | nil =>
    cases second
    rfl
  | cons head tail =>
    cases second with
    | cons head' tail' =>
      obtain ⟨here, others⟩ := List.forall_mem_cons.mp marked
      obtain ⟨here', others'⟩ := List.forall_mem_cons.mp marked'
      rw [Depicts.unique head head' here here', DepictsAll.unique tail tail' others others']

theorem DepictsEntries.unique {es : List Entry} {ps ps' : List (Picture × Picture)}
    {active : List Identity} (first : s.DepictsEntries es ps) (second : s.DepictsEntries es ps')
    (marked : ∀ entry ∈ ps, entry.1.MarkedInside active ∧ entry.2.MarkedInside active)
    (marked' : ∀ entry ∈ ps', entry.1.MarkedInside active ∧ entry.2.MarkedInside active) :
    ps = ps' := by
  cases first with
  | nil =>
    cases second
    rfl
  | cons key value tail =>
    cases second with
    | cons key' value' tail' =>
      obtain ⟨⟨left, right⟩, others⟩ := List.forall_mem_cons.mp marked
      obtain ⟨⟨left', right'⟩, others'⟩ := List.forall_mem_cons.mp marked'
      rw [Depicts.unique key key' left left', Depicts.unique value value' right right',
        DepictsEntries.unique tail tail' others others']

end

/-! ### What is around a part of a picture -/

theorem DepictsAll.of_mem {vs : List Value} {ps : List Picture} (all : s.DepictsAll vs ps)
    (member : p ∈ ps) : ∃ v ∈ vs, s.Depicts v p := by
  induction ps generalizing vs with
  | nil => cases member
  | cons q qs ih =>
    cases all with
    | cons head tail =>
      rcases List.mem_cons.mp member with rfl | later
      · exact ⟨_, List.mem_cons_self, head⟩
      · obtain ⟨v, inside, depicts⟩ := ih tail later
        exact ⟨v, .tail _ inside, depicts⟩

theorem DepictsEntries.of_mem {es : List Entry} {ps : List (Picture × Picture)}
    (all : s.DepictsEntries es ps) {entry : Picture × Picture} (member : entry ∈ ps) :
    ∃ e ∈ es, s.Depicts e.key entry.1 ∧ s.Depicts e.value entry.2 := by
  induction ps generalizing es with
  | nil => cases member
  | cons other ps ih =>
    cases all with
    | cons key value tail =>
      rcases List.mem_cons.mp member with rfl | later
      · exact ⟨_, List.mem_cons_self, key, value⟩
      · obtain ⟨e, inside, depicts⟩ := ih tail later
        exact ⟨e, .tail _ inside, depicts⟩

/-- The list or dict is one of the store and has the value inside. -/
def Encloses (s : Store) (container : Identity) (u : Value) : Prop :=
  container ∈ s.containers ∧ ∃ c : Value, c.identity = container ∧ Relation.TransGen s.Holds c u

/-- One more list or dict around a part. -/
theorem encloses_cons {c w : Value} {path : List Identity} (known : c.identity ∈ s.containers)
    (holds : s.Holds c w) (reached : s.Reaches w u) (inner : ∀ x ∈ path, s.Encloses x u) :
    ∀ x ∈ c.identity :: path, s.Encloses x u :=
  List.forall_mem_cons.mpr ⟨⟨known, c, rfl, .head' holds reached⟩, inner⟩

/-- **A part of a picture shows what can be found in the value**, inside the lists and dicts that
are around the part. -/
theorem Depicts.of_occurs (depicts : s.Depicts v p) {part : Picture} {path : List Identity}
    (occurs : part.Occurs path p) :
    ∃ u, s.Depicts u part ∧ s.Reaches v u ∧ ∀ x ∈ path, s.Encloses x u := by
  induction occurs generalizing v with
  | whole => exact ⟨v, depicts, .refl, List.forall_mem_nil _⟩
  | item member _ ih =>
    cases depicts with
    | list all =>
      obtain ⟨w, held, depicts⟩ := all.of_mem member
      obtain ⟨u, shown, reached, inner⟩ := ih depicts
      have holds : s.Holds (.list _) w := .item (Array.mem_toList_iff.mp held)
      have known := list_mem_containers (lt_size_of_mem_items held)
      exact ⟨u, shown, reached.head holds, encloses_cons known holds reached inner⟩
  | key member _ ih =>
    cases depicts with
    | dict all =>
      obtain ⟨e, held, depicts, _⟩ := all.of_mem member
      obtain ⟨u, shown, reached, inner⟩ := ih depicts
      have holds : s.Holds (.dict _) e.key := .key held
      have known := dict_mem_containers (lt_size_of_mem_entries held)
      exact ⟨u, shown, reached.head holds, encloses_cons known holds reached inner⟩
  | value member _ ih =>
    cases depicts with
    | dict all =>
      obtain ⟨e, held, _, depicts⟩ := all.of_mem member
      obtain ⟨u, shown, reached, inner⟩ := ih depicts
      have holds : s.Holds (.dict _) e.value := .value held
      have known := dict_mem_containers (lt_size_of_mem_entries held)
      exact ⟨u, shown, reached.head holds, encloses_cons known holds reached inner⟩
  | element member _ ih =>
    cases depicts with
    | tuple id all =>
      obtain ⟨w, held, depicts⟩ := all.of_mem member
      obtain ⟨u, shown, reached, inner⟩ := ih depicts
      exact ⟨u, shown, reached.head (.element held), inner⟩

/-- A list or dict that is around itself is inside itself. -/
theorem Depicts.not_around (depicts : s.Depicts v p) (acyclic : s.Acyclic v) {part : Picture}
    {path : List Identity} {container : Identity} (occurs : part.Occurs path p)
    (shows : part.container? = some container) : container ∉ path := by
  intro around
  obtain ⟨u, shown, reached, inner⟩ := depicts.of_occurs occurs
  obtain ⟨-, c, same, inside⟩ := inner container around
  have itself : c = u := by
    cases shown <;> cases shows <;> cases c <;> cases same <;> rfl
  subst itself
  exact acyclic c reached inside

/-- **A value that is nowhere inside itself has the right marks if it has none.** -/
theorem Depicts.markedExactly_iff (depicts : s.Depicts v p) (acyclic : s.Acyclic v) :
    p.MarkedExactly ↔ p.Markless := by
  constructor
  case mp =>
    intro marked part path occurs isMark
    have container : ∃ x, part.container? = some x := by
      cases part with
      | listMark place => exact ⟨_, rfl⟩
      | dictMark place => exact ⟨_, rfl⟩
      | _ => cases isMark
    obtain ⟨x, shows⟩ := container
    exact depicts.not_around acyclic occurs shows ((marked part path x occurs shows).mp isMark)
  case mpr =>
    intro markless part path container occurs shows
    exact ⟨fun isMark => absurd isMark (markless part path occurs),
      fun around => absurd around (depicts.not_around acyclic occurs shows)⟩

end Store

/-- One more list or dict around others, which are not those around all of them. -/
theorem Picture.apart_cons {active path : List Identity} {x : Identity} (fresh : x ∉ active)
    (apart : path.Nodup ∧ ∀ y ∈ path, y ∉ x :: active) :
    (x :: path).Nodup ∧ ∀ y ∈ x :: path, y ∉ active := by
  obtain ⟨distinct, others⟩ := apart
  refine ⟨List.nodup_cons.mpr ⟨fun inside => others x inside List.mem_cons_self, distinct⟩, ?_⟩
  intro y member
  rcases List.mem_cons.mp member with rfl | inside
  · exact fresh
  · exact List.not_mem_of_not_mem_cons (others y inside)

/-- No list or dict is around a part twice. -/
theorem Picture.MarkedInside.nodup {active path : List Identity} {whole part : Picture}
    (marked : whole.MarkedInside active) (occurs : part.Occurs path whole) :
    path.Nodup ∧ ∀ x ∈ path, x ∉ active := by
  induction occurs generalizing active with
  | whole => exact ⟨List.nodup_nil, List.forall_mem_nil _⟩
  | item member _ ih =>
    obtain ⟨fresh, inside⟩ := markedInside_list.mp marked
    exact apart_cons fresh (ih (inside _ member))
  | key member _ ih =>
    obtain ⟨fresh, inside⟩ := markedInside_dict.mp marked
    exact apart_cons fresh (ih (inside _ member).1)
  | value member _ ih =>
    obtain ⟨fresh, inside⟩ := markedInside_dict.mp marked
    exact apart_cons fresh (ih (inside _ member).2)
  | element member _ ih => exact ih (markedInside_tuple.mp marked _ member)

namespace Store

/-! ### The text of a value -/

/-- **The text of a value marks exactly what is inside itself.** On every store, the text of a value
is that of a picture of the value in which a list or dict is a mark exactly if it is one of those
around it; this is the only such picture, and no more lists and dicts are around a part of it than
there are in the store. If nothing in the value is inside itself, the text is that of the only
picture without marks. -/
theorem repr_marks_exactly (s : Store) (v : Value) :
    (∃ p, s.Depicts v p ∧ p.MarkedExactly ∧ s.repr v = p.text ∧
      (∀ p', s.Depicts v p' → p'.MarkedExactly → p' = p) ∧
      ∀ (part : Picture) path, part.Occurs path p →
        path.length ≤ s.lists.size + s.dicts.size) ∧
    (s.Acyclic v → ∃ p, s.Depicts v p ∧ p.Markless ∧ s.repr v = p.text ∧
      ∀ p', s.Depicts v p' → p'.Markless → p' = p) := by
  obtain ⟨p, depicts, inside, text⟩ := exists_writes s [] v
  have marked := Picture.markedInside_nil.mp inside
  have unique (p' : Picture) (depicts' : s.Depicts v p') (marked' : p'.MarkedExactly) : p' = p :=
    depicts'.unique depicts (Picture.markedInside_nil.mpr marked') inside
  constructor
  case left =>
    refine ⟨p, depicts, marked, text, unique, fun part path occurs => ?_⟩
    obtain ⟨u, -, -, around⟩ := depicts.of_occurs occurs
    have few := ((inside.nodup occurs).1.subperm fun x member => (around x member).1).length_le
    simpa only [containers, List.length_append, List.length_map, List.length_range] using few
  case right =>
    intro acyclic
    refine ⟨p, depicts, (depicts.markedExactly_iff acyclic).mp marked, text, ?_⟩
    exact fun p' depicts' markless =>
      unique p' depicts' ((depicts'.markedExactly_iff acyclic).mpr markless)

/-- A list with a one and itself in it, a list that holds this list twice, an empty list, and a list
that holds the empty one twice. -/
def sharedStore : Store :=
  ⟨#[#[.int 0 1, .list 0], #[.list 0, .list 0], #[], #[.list 2, .list 2]], #[], 1⟩

theorem repr_marks_exactly_shared :
    sharedStore.repr (.list 1) = "[[1, [...]], [1, [...]]]".toList ∧
      sharedStore.Acyclic (.list 3) ∧ sharedStore.repr (.list 3) = "[[], []]".toList := by
  have acyclic : sharedStore.Acyclic (.list 3) :=
    have inner : sharedStore.Unfolds (.list 2) (.list []) := .list .nil
    Unfolds.acyclic (.list (.cons inner (.cons inner .nil)))
  refine ⟨?_, acyclic, ?_⟩
  · obtain ⟨p, -, -, text, unique, -⟩ := (repr_marks_exactly sharedStore (.list 1)).1
    have knot : sharedStore.Depicts (.list 0) (.list 0 [.leaf ['1'], .listMark 0]) :=
      .list (.cons (.leaf rfl) (.cons (.listMark 0) .nil))
    have whole : sharedStore.Depicts (.list 1) _ := .list (.cons knot (.cons knot .nil))
    rw [text, ← unique _ whole (Picture.markedInside_nil.mp ?_)]
    · rfl
    · simp [Picture.markedInside_list, Picture.markedInside_leaf, Picture.markedInside_listMark]
  · obtain ⟨p, -, -, text, unique⟩ := (repr_marks_exactly sharedStore (.list 3)).2 acyclic
    have empty : sharedStore.Depicts (.list 2) (.list 2 []) := .list .nil
    have whole : sharedStore.Depicts (.list 3) _ := .list (.cons empty (.cons empty .nil))
    rw [text, ← unique _ whole ((whole.markedExactly_iff acyclic).mp
      (Picture.markedInside_nil.mp ?_))]
    · rfl
    · simp [Picture.markedInside_list]

end Store

end CallConsole
