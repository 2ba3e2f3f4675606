import Mathlib.Data.List.Lex
import Sift.Proofs.Reflection.Ancestry
import Sift.Proofs.Reflection.Memory
import Sift.Record

/-!
# Which member stands for a property

The types above a type are reached by turns: at each of them one goes on to its superclass or to
one of its interfaces (`Descriptor.Reaches`).  The turns are numbered in the order in which they are
tried, so the types above a type are searched in the lexicographic order of their positions: a type
before all that is above it, and what is above its superclass before what is above an interface.

A search follows the recursion of descriptors and knows no positions.  It goes through the list
`Descriptor.ancestry`, which holds every type that is reached, at its position and with the path to
it (`Descriptor.mem_ancestry_iff`), in ascending order (`Descriptor.pairwise_ancestry`).  What it
finds is therefore the first member of those that are wanted (`Descriptor.search_eq_some_iff`).
`Resolver.getter_first` says this of the standard strategies.
-/

set_option autoImplicit false

namespace Sift

variable {ι : Type} {El : ι → Type} {start : ι}

/-! ## Positions -/

/-- The turns on the way to a type above: at each type 0 stands for its superclass, and a greater
number for one of its interfaces, counted from one. -/
abbrev Position := List Nat

/-- Which types are above a type, at which position and by which path. -/
inductive Descriptor.Reaches (bottom : Descriptor El start) :
    Position → Ancestor El start → Prop where
  | self : bottom.Reaches [] ⟨start, .here, bottom⟩
  | superclass {position : Position} {type above : ι} {path : Path El start type}
      {declared : Declaration (El type)} {part : Embedding (El type) (El above)}
      {superclass : Descriptor El above} {interfaces : Interfaces El type}
      (below : bottom.Reaches position ⟨type, path, .derived declared part superclass interfaces⟩) :
      bottom.Reaches (position ++ [0]) ⟨above, path.superclass part, superclass⟩
  | interface {position : Position} {type : ι} {path : Path El start type}
      {descriptor interface : Descriptor El type} {index : Nat}
      (below : bottom.Reaches position ⟨type, path, descriptor⟩)
      (implemented : descriptor.interfaces.toList[index]? = some interface) :
      bottom.Reaches (position ++ [index + 1]) ⟨type, path.interface, interface⟩

mutual
/-- The ancestry of a type that is reached by a path, in the order in which it is searched. -/
def Descriptor.ancestry (position : Position) :
    {type : ι} → Path El start type → Descriptor El type → List (Position × Ancestor El start)
  | type, path, .base declared interfaces =>
    (position, ⟨type, path, .base declared interfaces⟩) :: interfaces.ancestry position 1 path
  | type, path, .derived declared part superclass interfaces =>
    (position, ⟨type, path, .derived declared part superclass interfaces⟩) ::
      (superclass.ancestry (position ++ [0]) (path.superclass part) ++
        interfaces.ancestry position 1 path)

/-- The ancestries of interfaces, the first of which is reached by some turn. -/
def Interfaces.ancestry (position : Position) (turn : Nat) :
    {type : ι} → Path El start type → Interfaces El type → List (Position × Ancestor El start)
  | _, _, .nil => []
  | _, path, .cons first rest =>
    first.ancestry (position ++ [turn]) path.interface ++ rest.ancestry position (turn + 1) path
end

/-! ## The ancestry lists what is reached -/

theorem Descriptor.mem_ancestry_self (position : Position) {type : ι} (path : Path El start type)
    (descriptor : Descriptor El type) :
    (position, ⟨type, path, descriptor⟩) ∈ descriptor.ancestry position path := by
  cases descriptor with
  | base declared interfaces => exact List.mem_cons_self ..
  | derived declared part superclass interfaces => exact List.mem_cons_self ..

/-- The ancestry of an interface belongs to that of the type that implements it. -/
theorem Interfaces.ancestry_subset_of_getElem? {position : Position} {turn index : Nat} {type : ι}
    {path : Path El start type} {interface : Descriptor El type} {interfaces : Interfaces El type}
    (implemented : interfaces.toList[index]? = some interface) :
    interface.ancestry (position ++ [index + turn]) path.interface ⊆
      interfaces.ancestry position turn path := by
  induction index generalizing turn interfaces with
  | zero =>
    cases interfaces with
    | nil => cases implemented
    | cons first rest =>
      obtain rfl := Option.some.inj implemented
      rw [Interfaces.ancestry, Nat.zero_add]
      exact List.subset_append_left ..
  | succ index ih =>
    cases interfaces with
    | nil => cases implemented
    | cons first rest =>
      rw [Interfaces.ancestry, Nat.succ_add_eq_add_succ]
      exact List.subset_append_of_subset_right _ (ih implemented)

section Listing

variable {bottom : Descriptor El start}

mutual
/-- What is listed above a type that is reached is reached. -/
theorem Descriptor.reaches_of_mem_ancestry : {type : ι} → (descriptor : Descriptor El type) →
    {position : Position} → {path : Path El start type} →
    bottom.Reaches position ⟨type, path, descriptor⟩ →
    ∀ entry ∈ descriptor.ancestry position path, bottom.Reaches entry.1 entry.2
  | _, .base declared interfaces, _, _, below => by
    refine List.forall_mem_cons.2 ⟨below, interfaces.reaches_of_mem_ancestry fun _ _ found => ?_⟩
    exact .interface below found
  | _, .derived declared part superclass interfaces, _, _, below => by
    refine List.forall_mem_cons.2 ⟨below, List.forall_mem_append.2 ⟨?_, ?_⟩⟩
    · exact superclass.reaches_of_mem_ancestry (.superclass below)
    · exact interfaces.reaches_of_mem_ancestry fun _ _ found => .interface below found

theorem Interfaces.reaches_of_mem_ancestry : {type : ι} → (interfaces : Interfaces El type) →
    {position : Position} → {turn : Nat} → {path : Path El start type} →
    (∀ index interface, interfaces.toList[index]? = some interface →
      bottom.Reaches (position ++ [index + turn]) ⟨type, path.interface, interface⟩) →
    ∀ entry ∈ interfaces.ancestry position turn path, bottom.Reaches entry.1 entry.2
  | _, .nil, _, _, _, _ => List.forall_mem_nil _
  | _, .cons first rest, _, turn, _, implemented => by
    refine List.forall_mem_append.2 ⟨?_, ?_⟩
    · have reached := implemented 0 first rfl
      rw [Nat.zero_add] at reached
      exact first.reaches_of_mem_ancestry reached
    · refine rest.reaches_of_mem_ancestry fun index interface found => ?_
      rw [← Nat.succ_add_eq_add_succ]
      exact implemented (index + 1) interface found
end

end Listing

mutual
/-- With a type, its whole ancestry is listed. -/
theorem Descriptor.ancestry_subset : {type : ι} → (descriptor : Descriptor El type) →
    (position : Position) → (path : Path El start type) →
    ∀ entry ∈ descriptor.ancestry position path,
      entry.2.descriptor.ancestry entry.1 entry.2.path ⊆ descriptor.ancestry position path
  | _, .base declared interfaces, position, path => by
    refine List.forall_mem_cons.2 ⟨List.Subset.refl _, fun entry member => ?_⟩
    exact List.subset_cons_of_subset _
      (interfaces.ancestry_subset position 1 path entry member)
  | _, .derived declared part superclass interfaces, position, path => by
    refine List.forall_mem_cons.2 ⟨List.Subset.refl _, List.forall_mem_append.2 ⟨?_, ?_⟩⟩
    · intro entry member
      exact List.subset_cons_of_subset _
        (List.subset_append_of_subset_left _ (superclass.ancestry_subset _ _ entry member))
    · intro entry member
      exact List.subset_cons_of_subset _
        (List.subset_append_of_subset_right _
          (interfaces.ancestry_subset position 1 path entry member))

theorem Interfaces.ancestry_subset : {type : ι} → (interfaces : Interfaces El type) →
    (position : Position) → (turn : Nat) → (path : Path El start type) →
    ∀ entry ∈ interfaces.ancestry position turn path,
      entry.2.descriptor.ancestry entry.1 entry.2.path ⊆ interfaces.ancestry position turn path
  | _, .nil, _, _, _ => List.forall_mem_nil _
  | _, .cons first rest, position, turn, path => by
    refine List.forall_mem_append.2 ⟨fun entry member => ?_, fun entry member => ?_⟩
    · exact List.subset_append_of_subset_left _ (first.ancestry_subset _ _ entry member)
    · exact List.subset_append_of_subset_right _ (rest.ancestry_subset _ _ _ entry member)
end

/-- **The ancestry lists the types that are reached, each with the path to it.** -/
theorem Descriptor.mem_ancestry_iff {bottom : Descriptor El start}
    {entry : Position × Ancestor El start} :
    entry ∈ bottom.ancestry [] .here ↔ bottom.Reaches entry.1 entry.2 := by
  constructor
  · exact reaches_of_mem_ancestry bottom .self entry
  · obtain ⟨position, ancestor⟩ := entry
    intro reached
    dsimp only at reached
    induction reached with
    | self => exact mem_ancestry_self ..
    | superclass below ih =>
      refine bottom.ancestry_subset _ _ _ ih ?_
      exact List.mem_cons_of_mem _ (List.mem_append_left _ (mem_ancestry_self ..))
    | @interface position type path descriptor interface index below implemented ih =>
      refine bottom.ancestry_subset _ _ _ ih ?_
      have inside : (position ++ [index + 1], (⟨type, path.interface, interface⟩ : Ancestor ..)) ∈
          descriptor.interfaces.ancestry position 1 path :=
        Interfaces.ancestry_subset_of_getElem? implemented (mem_ancestry_self ..)
      cases descriptor with
      | base declared interfaces => exact List.mem_cons_of_mem _ inside
      | derived declared part superclass interfaces =>
        exact List.mem_cons_of_mem _ (List.mem_append_right _ inside)

/-! ## The ancestry ascends -/

mutual
/-- What is above a type is reached by further turns. -/
theorem Descriptor.exists_turns : {type : ι} → (descriptor : Descriptor El type) →
    (position : Position) → (path : Path El start type) →
    ∀ entry ∈ descriptor.ancestry position path, ∃ turns, entry.1 = position ++ turns
  | _, .base declared interfaces, position, path => by
    refine List.forall_mem_cons.2 ⟨⟨[], (List.append_nil _).symm⟩, fun entry member => ?_⟩
    obtain ⟨turn, turns, -, same⟩ := interfaces.exists_turns position 1 path entry member
    exact ⟨turn :: turns, same⟩
  | _, .derived declared part superclass interfaces, position, path => by
    refine List.forall_mem_cons.2 ⟨⟨[], (List.append_nil _).symm⟩, ?_⟩
    refine List.forall_mem_append.2 ⟨?_, ?_⟩
    · intro entry member
      obtain ⟨turns, same⟩ := superclass.exists_turns _ _ entry member
      exact ⟨0 :: turns, by rw [same, List.append_assoc, List.singleton_append]⟩
    · intro entry member
      obtain ⟨turn, turns, -, same⟩ := interfaces.exists_turns position 1 path entry member
      exact ⟨turn :: turns, same⟩

theorem Interfaces.exists_turns : {type : ι} → (interfaces : Interfaces El type) →
    (position : Position) → (turn : Nat) → (path : Path El start type) →
    ∀ entry ∈ interfaces.ancestry position turn path,
      ∃ next turns, turn ≤ next ∧ entry.1 = position ++ next :: turns
  | _, .nil, _, _, _ => List.forall_mem_nil _
  | _, .cons first rest, position, turn, path => by
    refine List.forall_mem_append.2 ⟨fun entry member => ?_, fun entry member => ?_⟩
    · obtain ⟨turns, same⟩ := first.exists_turns _ _ entry member
      exact ⟨turn, turns, Nat.le_refl turn, by rw [same, List.append_assoc, List.singleton_append]⟩
    · obtain ⟨next, turns, later, same⟩ := rest.exists_turns _ _ _ entry member
      exact ⟨next, turns, Nat.le_of_succ_le later, same⟩
end

/-- An earlier turn at the same type leads to an earlier position. -/
theorem Position.lt_of_turn (position : Position) {turn turn' : Nat} (earlier : turn < turn')
    (turns turns' : List Nat) : position ++ turn :: turns < position ++ turn' :: turns' :=
  List.Lex.append_left _ (.rel earlier) position

/-- A type stands before everything above it. -/
theorem Position.lt_append (position : Position) (turn : Nat) (turns : List Nat) :
    position < position ++ turn :: turns := by
  have before : position ++ [] < position ++ turn :: turns := List.Lex.append_left _ .nil position
  rwa [List.append_nil] at before

mutual
/-- **The ancestry is listed in the order of positions.** -/
theorem Descriptor.pairwise_ancestry : {type : ι} → (descriptor : Descriptor El type) →
    (position : Position) → (path : Path El start type) →
    (descriptor.ancestry position path).Pairwise fun first second => first.1 < second.1
  | _, .base declared interfaces, position, path => by
    refine List.pairwise_cons.2
      ⟨fun entry member => ?_, interfaces.pairwise_ancestry position 1 path⟩
    obtain ⟨turn, turns, -, same⟩ := interfaces.exists_turns position 1 path entry member
    rw [same]
    exact position.lt_append turn turns
  | _, .derived declared part superclass interfaces, position, path => by
    refine List.pairwise_cons.2 ⟨List.forall_mem_append.2 ⟨?_, ?_⟩, List.pairwise_append.2
      ⟨superclass.pairwise_ancestry _ _, interfaces.pairwise_ancestry position 1 path, ?_⟩⟩
    · intro entry member
      obtain ⟨turns, same⟩ := superclass.exists_turns _ _ entry member
      rw [same, List.append_assoc]
      exact position.lt_append 0 turns
    · intro entry member
      obtain ⟨turn, turns, -, same⟩ := interfaces.exists_turns position 1 path entry member
      rw [same]
      exact position.lt_append turn turns
    · intro entry member entry' member'
      obtain ⟨turns, same⟩ := superclass.exists_turns _ _ entry member
      obtain ⟨turn, turns', later, same'⟩ := interfaces.exists_turns position 1 path entry' member'
      rw [same, same', List.append_assoc]
      exact position.lt_of_turn later turns turns'

theorem Interfaces.pairwise_ancestry : {type : ι} → (interfaces : Interfaces El type) →
    (position : Position) → (turn : Nat) → (path : Path El start type) →
    (interfaces.ancestry position turn path).Pairwise fun first second => first.1 < second.1
  | _, .nil, _, _, _ => .nil
  | _, .cons first rest, position, turn, path => by
    refine List.pairwise_append.2
      ⟨first.pairwise_ancestry _ _, rest.pairwise_ancestry position (turn + 1) path, ?_⟩
    intro entry member entry' member'
    obtain ⟨turns, same⟩ := first.exists_turns _ _ entry member
    obtain ⟨next, turns', later, same'⟩ := rest.exists_turns _ _ _ entry' member'
    rw [same, same', List.append_assoc]
    exact position.lt_of_turn later turns turns'
end

/-! ## A search goes through the ancestry -/

section Searching

variable {β : Type*} {find : (type : ι) → Path El start type → Descriptor El type → Option β}

mutual
theorem Descriptor.search_eq_findSome? : {type : ι} → (path : Path El start type) →
    (descriptor : Descriptor El type) → (position : Position) →
    descriptor.search find path = (descriptor.ancestry position path).findSome? fun entry =>
      find entry.2.type entry.2.path entry.2.descriptor
  | _, path, .base declared interfaces, position => by
    rw [Descriptor.search, Descriptor.ancestry, findSome?_cons_eq_or,
      interfaces.search_eq_findSome? path position 1]
  | _, path, .derived declared part superclass interfaces, position => by
    rw [Descriptor.search, Descriptor.ancestry, findSome?_cons_eq_or, List.findSome?_append,
      superclass.search_eq_findSome? _ (position ++ [0]),
      interfaces.search_eq_findSome? path position 1]

theorem Interfaces.search_eq_findSome? : {type : ι} → (interfaces : Interfaces El type) →
    (path : Path El start type) → (position : Position) → (turn : Nat) →
    interfaces.search find path = (interfaces.ancestry position turn path).findSome? fun entry =>
      find entry.2.type entry.2.path entry.2.descriptor
  | _, .nil, _, _, _ => rfl
  | _, .cons first rest, path, position, turn => by
    rw [Interfaces.search, Interfaces.ancestry, List.findSome?_append,
      first.search_eq_findSome? _ (position ++ [turn]),
      rest.search_eq_findSome? path position (turn + 1)]
end

end Searching

/-! ## Members in their order -/

/-- A member that a type in an ancestry declares at an index. -/
structure Occurrence (Member : Type → Type*) (El : ι → Type) (start : ι) where
  position : Position
  ancestor : Ancestor El start
  index : Nat
  member : Member (El ancestor.type)

/-- A member comes before another one if its type does, or the type is the same and declares it
first. -/
def Occurrence.Before {Member : Type → Type*} (first second : Occurrence Member El start) : Prop :=
  first.position < second.position ∨
    first.position = second.position ∧ first.index < second.index

section Occurrences

variable {Member : Type → Type*} (members : {α : Type} → Declaration α → List (Member α))

/-- Whether a member of some sort is declared there, by a type in the ancestry of another one. -/
def Descriptor.Declares (bottom : Descriptor El start) (occurrence : Occurrence Member El start) :
    Prop :=
  bottom.Reaches occurrence.position occurrence.ancestor ∧
    (members occurrence.ancestor.descriptor.declared)[occurrence.index]? = some occurrence.member

/-- The first of the members that are wanted. -/
structure Descriptor.Prefers (bottom : Descriptor El start)
    (wanted : Occurrence Member El start → Prop) (first : Occurrence Member El start) : Prop where
  declares : bottom.Declares members first
  isWanted : wanted first
  earliest : ∀ other, bottom.Declares members other → wanted other → ¬ other.Before first

/-- All members of a sort in an ancestry. -/
def Descriptor.occurrences (bottom : Descriptor El start) : List (Occurrence Member El start) :=
  (bottom.ancestry [] .here).flatMap fun entry =>
    (members entry.2.descriptor.declared).zipIdx.map fun member =>
      ⟨entry.1, entry.2, member.2, member.1⟩

theorem Descriptor.mem_occurrences_iff {bottom : Descriptor El start}
    {occurrence : Occurrence Member El start} :
    occurrence ∈ bottom.occurrences members ↔ bottom.Declares members occurrence := by
  obtain ⟨position, ancestor, index, member⟩ := occurrence
  rw [occurrences, List.mem_flatMap, Declares]
  constructor
  · rintro ⟨entry, listed, inside⟩
    obtain ⟨⟨_, _⟩, found, same⟩ := List.mem_map.1 inside
    cases same
    exact ⟨mem_ancestry_iff.1 listed, List.mem_zipIdx_iff_getElem?.1 found⟩
  · rintro ⟨reached, found⟩
    exact ⟨(position, ancestor), mem_ancestry_iff.2 reached, List.mem_map.2
      ⟨(member, index), List.mem_zipIdx_iff_getElem?.2 found, rfl⟩⟩

/-- They are listed in their order. -/
theorem Descriptor.pairwise_occurrences (bottom : Descriptor El start) :
    (bottom.occurrences members).Pairwise Occurrence.Before := by
  refine List.pairwise_flatMap.2 ⟨fun entry _ => ?_, ?_⟩
  · refine List.pairwise_map.2 ?_
    have ascending :
        ((members entry.2.descriptor.declared).zipIdx.map Prod.snd).Pairwise (· < ·) := by
      rw [List.zipIdx_map_snd]
      exact List.pairwise_lt_range'
    exact (List.pairwise_map.1 ascending).imp fun earlier => Or.inr ⟨rfl, earlier⟩
  · refine (bottom.pairwise_ancestry [] .here).imp fun earlier => ?_
    intro occurrence member occurrence' member'
    obtain ⟨_, _, rfl⟩ := List.mem_map.1 member
    obtain ⟨_, _, rfl⟩ := List.mem_map.1 member'
    exact Or.inl earlier

theorem findSome?_flatMap {α β γ : Type*} (f : α → List β) (look : β → Option γ) (items : List α) :
    (items.flatMap f).findSome? look = items.findSome? fun item => (f item).findSome? look := by
  induction items with
  | nil => rfl
  | cons first rest ih =>
    rw [List.flatMap_cons, List.findSome?_append, ih, findSome?_cons_eq_or]

/-- In a list that is ordered, what is found is the first that offers something. -/
theorem findSome?_eq_some_iff_of_pairwise {α β : Type*} {before : α → α → Prop} {items : List α}
    (ordered : items.Pairwise before) (asymmetric : ∀ first second, before first second →
      ¬ before second first) {look : α → Option β} {found : β} :
    items.findSome? look = some found ↔
      ∃ first ∈ items, look first = some found ∧
        ∀ other ∈ items, (look other).isSome → ¬ before other first := by
  rw [List.findSome?_eq_some_iff]
  constructor
  · rintro ⟨earlier, first, later, rfl, offers, none⟩
    refine ⟨first, List.mem_append_right _ List.mem_cons_self, offers, fun other member some => ?_⟩
    obtain ⟨-, ordered, -⟩ := List.pairwise_append.1 ordered
    rcases List.mem_append.1 member with inside | inside
    · rw [none other inside] at some
      cases some
    · rcases List.mem_cons.1 inside with rfl | inside
      · exact fun before => asymmetric _ _ before before
      · exact asymmetric _ _ (List.rel_of_pairwise_cons ordered inside)
  · rintro ⟨first, member, offers, earliest⟩
    obtain ⟨earlier, later, rfl⟩ := List.append_of_mem member
    refine ⟨earlier, first, later, rfl, offers, fun other inside => ?_⟩
    have before : before other first :=
      (List.pairwise_append.1 ordered).2.2 other inside first List.mem_cons_self
    have refused := mt (earliest other (List.mem_append_left _ inside)) (not_not_intro before)
    exact Option.not_isSome_iff_eq_none.1 refused

theorem Occurrence.Before.asymm {first second : Occurrence Member El start}
    (before : first.Before second) : ¬ second.Before first := by
  rintro (earlier | ⟨same, earlier⟩)
  · rcases before with before | ⟨same, -⟩
    · exact lt_asymm earlier before
    · exact lt_irrefl _ (same ▸ earlier)
  · rcases before with before | ⟨-, before⟩
    · exact lt_irrefl _ (same ▸ before)
    · exact lt_asymm earlier before

section Searching

variable {β : Type*} (bottom : Descriptor El start)
  (offer : (type : ι) → Path El start type → Descriptor El type → Member (El type) → Option β)

/-- What is offered for a member. -/
def Occurrence.offered (occurrence : Occurrence Member El start) : Option β :=
  offer _ occurrence.ancestor.path occurrence.ancestor.descriptor occurrence.member

theorem Descriptor.search_eq_findSome?_occurrences :
    bottom.search (fun type path descriptor =>
        (members descriptor.declared).findSome? (offer type path descriptor)) .here =
      (bottom.occurrences members).findSome? (Occurrence.offered offer) := by
  rw [bottom.search_eq_findSome? .here [], occurrences, findSome?_flatMap]
  congr 1
  funext entry
  conv_lhs => rw [← List.zipIdx_map_fst 0 (members entry.2.descriptor.declared)]
  rw [List.findSome?_map, List.findSome?_map]
  rfl

variable {members bottom offer} {wanted : Occurrence Member El start → Prop}
  (offers : ∀ occurrence, (occurrence.offered offer).isSome ↔ wanted occurrence)
include offers

/-- **A search finds what the first member offers, of those that offer something.** -/
theorem Descriptor.search_eq_some_iff {found : β} :
    bottom.search (fun type path descriptor =>
        (members descriptor.declared).findSome? (offer type path descriptor)) .here = some found ↔
      ∃ first, bottom.Prefers members wanted first ∧ first.offered offer = some found := by
  rw [search_eq_findSome?_occurrences, findSome?_eq_some_iff_of_pairwise
    (bottom.pairwise_occurrences members) fun _ _ => Occurrence.Before.asymm]
  simp only [mem_occurrences_iff, offers]
  constructor
  · rintro ⟨first, declared, found, earliest⟩
    exact ⟨first, ⟨declared, (offers first).1 (by rw [found]; rfl), earliest⟩, found⟩
  · rintro ⟨first, ⟨declared, -, earliest⟩, found⟩
    exact ⟨first, declared, found, earliest⟩

theorem Descriptor.search_eq_none_iff :
    bottom.search (fun type path descriptor =>
        (members descriptor.declared).findSome? (offer type path descriptor)) .here = none ↔
      ∀ other, bottom.Declares members other → ¬ wanted other := by
  rw [search_eq_findSome?_occurrences, List.findSome?_eq_none_iff]
  simp only [mem_occurrences_iff, ← offers, Option.not_isSome_iff_eq_none]

end Searching

end Occurrences

/-! ## Members that stand for a property -/

/-- A name that consists of a word and of a rest that stands for a property: as it is written or
with its first letter in the lower case. -/
def Names (word name property : String) : Prop :=
  ∃ rest, name = word ++ rest ∧ rest ≠ "" ∧ (rest = property ∨ Text.decapitalize rest = property)

theorem methodMatches_iff {word name property : String} :
    methodMatches word name property = true ↔ Names word name property := by
  rw [methodMatches, Names]
  constructor
  · intro matched
    split at matched
    · next rest found =>
      have named : word.toList ++ rest = name.toList :=
        List.isPrefixOf?_eq_some_iff_append_eq.1 found
      rw [restMatches, Bool.and_eq_true, Bool.or_eq_true, beq_iff_eq, beq_iff_eq] at matched
      refine ⟨String.ofList rest, ?_, ?_, matched.2⟩
      · rw [← String.toList_inj, String.toList_append, String.toList_ofList, named]
      · intro empty
        rw [empty] at matched
        exact absurd matched.1 (by decide)
    · cases matched
  · rintro ⟨rest, rfl, nonempty, stands⟩
    have found : word.toList.isPrefixOf? (word ++ rest).toList = some rest.toList := by
      rw [List.isPrefixOf?_eq_some_iff_append_eq, String.toList_append]
    rw [found]
    simpa [restMatches, nonempty] using stands

/-- A method without parameters that is named for reading a property. -/
def Method.Reads {α : Type} (property : String) (method : Method α) (reading : Reading α) : Prop :=
  method.body = .read reading ∧
    (Names "get" method.name property ∨ Names "is" method.name property)

section Offering

variable {type : ι} (property : String) (path : Path El start type)
  (descriptor : Descriptor El type)

/-- The getter that a method makes, if it reads the property. -/
def Method.getter? (method : Method (El type)) : Option (Getter El) :=
  match method.reading? with
  | some reading =>
    if readsProperty method.name property then
      some ⟨.ofMember path descriptor.declared property method.name .method method.visibility,
        reading⟩
    else none
  | none => none

variable {property path descriptor} {getter : Getter El}

theorem Method.getter?_eq_some_iff {method : Method (El type)} :
    method.getter? property path descriptor = some getter ↔
      ∃ reading, method.Reads property reading ∧
        getter = ⟨.ofMember path descriptor.declared property method.name .method
          method.visibility, reading⟩ := by
  obtain ⟨name, visibility, body⟩ := method
  have named : readsProperty name property = true ↔
      Names "get" name property ∨ Names "is" name property := by
    rw [readsProperty, Bool.or_eq_true, methodMatches_iff, methodMatches_iff]
  cases body with
  | read reading =>
    simp only [Method.getter?, Method.reading?, Method.Reads, MethodBody.read.injEq,
      Option.ite_none_right_eq_some, Option.some.injEq, named]
    constructor
    · rintro ⟨reads, rfl⟩
      exact ⟨reading, ⟨rfl, reads⟩, rfl⟩
    · rintro ⟨_, ⟨rfl, reads⟩, rfl⟩
      exact ⟨reads, rfl⟩
  | write writing =>
    constructor
    · exact nofun
    · rintro ⟨_, ⟨same, -⟩, -⟩
      cases same

end Offering

section Getters

variable {type : ι} {descriptor : Descriptor El type} {property : String} {getter : Getter El}

theorem Occurrence.isSome_methodGetter_iff (method : Occurrence Method El start) :
    (method.offered fun _ path descriptor => Method.getter? property path descriptor).isSome ↔
      ∃ reading, method.member.Reads property reading := by
  rw [Option.isSome_iff_exists]
  simp only [offered, Method.getter?_eq_some_iff]
  exact ⟨fun ⟨_, reading, reads, _⟩ => ⟨reading, reads⟩,
    fun ⟨reading, reads⟩ => ⟨_, reading, reads, rfl⟩⟩

/-- Methods are found by the first one that reads the property. -/
theorem MethodStrategy.getter?_eq_some_iff :
    getter? descriptor property = some getter ↔
      ∃ (first : Occurrence Method El type) (reading : Reading (El first.ancestor.type)),
        descriptor.Prefers Declaration.methods
          (fun method => ∃ reading, method.member.Reads property reading) first ∧
        first.member.Reads property reading ∧
        getter = ⟨.ofMember first.ancestor.path first.ancestor.descriptor.declared property
          first.member.name .method first.member.visibility, reading⟩ := by
  refine (Descriptor.search_eq_some_iff Occurrence.isSome_methodGetter_iff).trans ?_
  simp only [Occurrence.offered, Method.getter?_eq_some_iff]
  exact ⟨fun ⟨first, prefers, reading, reads, same⟩ => ⟨first, reading, prefers, reads, same⟩,
    fun ⟨first, reading, prefers, reads, same⟩ => ⟨first, prefers, reading, reads, same⟩⟩

theorem MethodStrategy.getter?_eq_none_iff :
    getter? descriptor property = none ↔
      ∀ method, descriptor.Declares Declaration.methods method →
        ¬ ∃ reading, method.member.Reads property reading :=
  Descriptor.search_eq_none_iff Occurrence.isSome_methodGetter_iff

end Getters

section Fields

variable {type : ι} {β : Type*} (property : String)
  (make : {inner : ι} → Path El type inner → Descriptor El inner → Field (El inner) → β)

/-- What is made of a field, if it has the name of a property. -/
def Field.named? {inner : ι} (path : Path El type inner) (descriptor : Descriptor El inner)
    (field : Field (El inner)) : Option β :=
  if field.name == property then some (make path descriptor field) else none

theorem Field.named?_eq_some_iff {inner : ι} {path : Path El type inner}
    {descriptor : Descriptor El inner} {field : Field (El inner)} {made : β} :
    field.named? property make path descriptor = some made ↔
      field.name = property ∧ made = make path descriptor field := by
  rw [named?, Option.ite_none_right_eq_some, beq_iff_eq, Option.some.injEq, eq_comm (a := made)]

theorem Declaration.map_field? {inner : ι} (path : Path El type inner)
    (descriptor : Descriptor El inner) :
    (descriptor.declared.field? property).map (make path descriptor) =
      descriptor.declared.fields.findSome? (Field.named? property make path descriptor) := by
  rw [field?]
  induction descriptor.declared.fields with
  | nil => rfl
  | cons first rest ih =>
    rw [List.find?_cons, List.findSome?_cons, Field.named?]
    cases first.name == property with
    | true => rfl
    | false => exact ih

theorem Occurrence.isSome_named?_iff (field : Occurrence Field El type) :
    (field.offered fun _ => Field.named? property make).isSome ↔
      field.member.name = property := by
  rw [Option.isSome_iff_exists]
  simp only [offered, Field.named?_eq_some_iff]
  exact ⟨fun ⟨_, named, _⟩ => named, fun named => ⟨_, named, rfl⟩⟩

variable {property make} {descriptor : Descriptor El type}

/-- Fields are found by the first one of the name of the property. -/
theorem Descriptor.search_field_eq_some_iff {made : β} :
    descriptor.search (fun _ path descriptor =>
        (descriptor.declared.field? property).map (make path descriptor)) .here = some made ↔
      ∃ first : Occurrence Field El type,
        descriptor.Prefers Declaration.fields (fun field => field.member.name = property) first ∧
        made = make first.ancestor.path first.ancestor.descriptor first.member := by
  simp only [Declaration.map_field?]
  refine (search_eq_some_iff (Occurrence.isSome_named?_iff property make)).trans ?_
  simp only [Occurrence.offered, Field.named?_eq_some_iff]
  exact ⟨fun ⟨first, prefers, _, same⟩ => ⟨first, prefers, same⟩,
    fun ⟨first, prefers, same⟩ => ⟨first, prefers, prefers.isWanted, same⟩⟩

theorem Descriptor.search_field_eq_none_iff :
    descriptor.search (fun _ path descriptor =>
        (descriptor.declared.field? property).map (make path descriptor)) .here = none ↔
      ∀ field, descriptor.Declares Declaration.fields field → field.member.name ≠ property := by
  simp only [Declaration.map_field?]
  exact search_eq_none_iff (Occurrence.isSome_named?_iff property make)

/-- A field for reading is the first one of the name of the property. -/
theorem FieldStrategy.getter?_eq_some_iff {getter : Getter El} :
    getter? descriptor property = some getter ↔
      ∃ first : Occurrence Field El type,
        descriptor.Prefers Declaration.fields (fun field => field.member.name = property) first ∧
        getter = ⟨.ofMember first.ancestor.path first.ancestor.descriptor.declared property
          first.member.name .field first.member.visibility, first.member.reading⟩ :=
  Descriptor.search_field_eq_some_iff

/-- A field for writing is the same one. -/
theorem FieldStrategy.setter?_eq_some_iff {setter : Setter El} :
    setter? descriptor property = some setter ↔
      ∃ first : Occurrence Field El type,
        descriptor.Prefers Declaration.fields (fun field => field.member.name = property) first ∧
        setter = ⟨.ofMember first.ancestor.path first.ancestor.descriptor.declared property
          first.member.name .field first.member.visibility, first.member.type.kind,
          first.member.writing?⟩ :=
  Descriptor.search_field_eq_some_iff

end Fields

/-- **The standard strategies prefer methods to fields, and earlier types and members to later
ones.**  A resolver that has not resolved the property of the type before answers with the first
method in the ancestry of the type that reads the property, or, if there is no such method, with the
first field of this name, and with the path to the type that declares the member; it fails in the
name of the type that was asked if and only if there is neither. -/
theorem Resolver.getter_first [DecidableEq ι] {type : ι} {resolver : Resolver El}
    {descriptor : Descriptor El type} {property : String}
    (searches : resolver.strategies = Strategy.standard)
    (unresolved : resolver.getters.lookup (descriptor.key property) = none) :
    (∀ getter, (resolver.getter descriptor property).2 = .ok getter ↔
      (∃ (first : Occurrence Method El type) (reading : Reading (El first.ancestor.type)),
        descriptor.Prefers Declaration.methods
          (fun method => ∃ reading, method.member.Reads property reading) first ∧
        first.member.Reads property reading ∧
        getter = ⟨.ofMember first.ancestor.path first.ancestor.descriptor.declared property
          first.member.name .method first.member.visibility, reading⟩) ∨
      (∀ method, descriptor.Declares Declaration.methods method →
          ¬ ∃ reading, method.member.Reads property reading) ∧
        ∃ first : Occurrence Field El type,
          descriptor.Prefers Declaration.fields (fun field => field.member.name = property) first ∧
          getter = ⟨.ofMember first.ancestor.path first.ancestor.descriptor.declared property
            first.member.name .field first.member.visibility, first.member.reading⟩) ∧
    ∀ missing, (resolver.getter descriptor property).2 = .error missing ↔
      missing = ⟨.getter, descriptor.name, property⟩ ∧
      (∀ method, descriptor.Declares Declaration.methods method →
        ¬ ∃ reading, method.member.Reads property reading) ∧
      ∀ field, descriptor.Declares Declaration.fields field → field.member.name ≠ property := by
  have answered : (resolver.getter descriptor property).2 = descriptor.answer .getter property
      ((MethodStrategy.getter? descriptor property).or
        (FieldStrategy.getter? descriptor property)) := by
    rw [Resolver.getter_eq, consult, unresolved, searches, Strategy.findGetter, Strategy.standard,
      findSome?_cons_eq_or, List.findSome?_singleton]
    rfl
  rw [answered, ← MethodStrategy.getter?_eq_none_iff]
  constructor
  · intro getter
    rw [Descriptor.answer_eq_ok_iff, Option.or_eq_some_iff, MethodStrategy.getter?_eq_some_iff]
    exact or_congr_right (and_congr_right' FieldStrategy.getter?_eq_some_iff)
  · intro missing
    rw [Descriptor.answer_eq_error_iff, Option.or_eq_none_iff, and_comm]
    exact and_congr_right' (and_congr_right' Descriptor.search_field_eq_none_iff)

/-- A dog, which has a field for its age, is an animal, and animals are aged. -/
def RecordClass.dog : Descriptor Record 1 :=
  (describe "Dog" .shown
      [⟨.shownField, "age", .required .int32, (0 : Int32), "years"⟩] []).descriptor
    [describe "Animal" .shown [⟨.finalField, "age", .required .int32, (0 : Int32), "age"⟩]
      [describe "Aged" .shown [⟨.getter, "getAge", .required .int32, (0 : Int32), "age"⟩] []]]

/-- The method of the interface of the superclass is preferred to the dog's own field. -/
theorem Resolver.getter_first_dog :
    let resolver := (Resolver.standard.getter RecordClass.dog "name").1
    resolver.strategies = Strategy.standard ∧
      resolver.getters.lookup (RecordClass.dog.key "age") = none ∧
      ∃ first : Occurrence Method Record 1,
        RecordClass.dog.Prefers Declaration.methods
          (fun method => ∃ reading, method.member.Reads "age" reading) first ∧
        first.ancestor.descriptor.name = "Aged" ∧ first.member.name = "getAge" := by
  intro resolver
  obtain ⟨getter, found, declaringType, memberName, memberSort⟩ :
      ∃ getter, (resolver.getter RecordClass.dog "age").2 = .ok getter ∧
        getter.declaringType = "Aged" ∧ getter.memberName = "getAge" ∧
        getter.memberSort = .method := ⟨_, rfl, rfl, rfl, rfl⟩
  refine ⟨rfl, rfl, ?_⟩
  obtain ⟨answers, -⟩ :=
    @Resolver.getter_first _ _ _ _ resolver RecordClass.dog "age" rfl rfl
  rcases (answers getter).1 found with ⟨first, reading, prefers, -, rfl⟩ | ⟨-, first, -, rfl⟩
  · exact ⟨first, prefers, declaringType, memberName⟩
  · cases memberSort

end Sift
