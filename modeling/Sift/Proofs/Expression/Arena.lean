import Mathlib.Data.List.Forall2
import Mathlib.Data.List.Induction
import Sift.Expression.Builder
import Sift.Proofs.Expression.Structure
import Sift.Proofs.Failure

/-!
# What a builder holds

A builder is asked for nodes one after the other, with any kinds and any children, whether they are
there or not.  Whatever it is asked for, what it holds is a forest (`Builder.Forest`): the children
of a node stand before it and are as many as its kind takes, a node has a parent exactly if it is
among the children of that parent, it is a child only once, and the term of a node is its kind over
the terms of its children.

The argument is the usual one for a machine.  `Builder.node_eq_ok_iff` says all that a request that
succeeds can have done, `Builder.Forest.node` that such a step keeps the forest, and
`Builder.forest_after` that any sequence of requests does.
-/

set_option autoImplicit false

namespace Sift

namespace Builder

/-! ## Runs of a builder -/

/-- A request for a node of a kind over children. -/
abbrev Request := NodeKind × List Nat

/-- The builder after requests, of which any may fail. -/
def after (requests : List Request) : Builder :=
  requests.foldl (fun builder request => (builder.step request.1 request.2).1) empty

theorem after_concat (requests : List Request) (request : Request) :
    after (requests ++ [request]) = ((after requests).step request.1 request.2).1 := by
  simp only [after, List.foldl_append, List.foldl_cons, List.foldl_nil]

/-! ## One request -/

/-- A node that is there and has no parent, with the term and the depth it carries. -/
def Free (builder : Builder) (id : Nat) (grown : Grown) : Prop :=
  ∃ node, builder.nodes[id]? = some node ∧ node.parent = none ∧ node.grown = grown

theorem free_iff {builder : Builder} {id : Nat} {grown : Grown} {node : Node}
    (found : builder.nodes[id]? = some node) :
    builder.Free id grown ↔ node.parent = none ∧ node.grown = grown := by
  constructor
  · rintro ⟨node', found', detached, same⟩
    cases found.symm.trans found'
    exact ⟨detached, same⟩
  · rintro ⟨detached, same⟩
    exact ⟨node, found, detached, same⟩

theorem operands_eq_ok_iff {builder : Builder} {children earlier : List Nat}
    {operands : List Grown} :
    builder.operands children earlier = .ok operands ↔
      children.Nodup ∧ (∀ child ∈ children, child ∉ earlier) ∧
        List.Forall₂ builder.Free children operands := by
  induction children generalizing earlier operands with
  | nil =>
    simp only [Builder.operands, Except.ok.injEq, List.nodup_nil, List.forall₂_nil_left_iff,
      List.not_mem_nil, false_implies, implies_true, true_and]
    exact eq_comm
  | cons id rest ih =>
    have fresh : (∀ child ∈ rest, child ∉ id :: earlier) ↔
        id ∉ rest ∧ ∀ child ∈ rest, child ∉ earlier := by
      simp only [List.mem_cons, not_or, forall_and, ← List.forall_mem_ne']
    rw [Builder.operands, List.forall₂_cons_left_iff, List.nodup_cons, List.forall_mem_cons]
    cases found : builder.nodes[id]? with
    | none =>
      constructor
      · exact nofun
      · rintro ⟨_, _, _, _, ⟨node, found', _⟩, _⟩
        cases found.symm.trans found'
    | some node =>
      simp only [free_iff found, Bool.or_eq_true, List.contains_iff_mem]
      by_cases taken : node.parent.isSome = true ∨ id ∈ earlier
      · rw [if_pos taken]
        constructor
        · exact nofun
        · rintro ⟨_, ⟨notEarlier, _⟩, _, _, ⟨detached, _⟩, _⟩
          rcases taken with attached | isEarlier
          · rw [detached] at attached
            cases attached
          · exact absurd isEarlier notEarlier
      · rw [if_neg taken]
        obtain ⟨detached, notEarlier⟩ := not_or.1 taken
        simp only [map_eq_ok_iff, ih, fresh]
        constructor
        · rintro ⟨grownRest, ⟨nodup, ⟨notRest, others⟩, free⟩, rfl⟩
          exact ⟨⟨notRest, nodup⟩, ⟨notEarlier, others⟩, node.grown, grownRest,
            ⟨Option.not_isSome_iff_eq_none.1 detached, rfl⟩, free, rfl⟩
        · rintro ⟨⟨notRest, nodup⟩, ⟨_, others⟩, _, grownRest, ⟨_, rfl⟩, free, rfl⟩
          exact ⟨grownRest, ⟨nodup, ⟨notRest, others⟩, free⟩, rfl⟩

end Builder

/-- Growing fails only by a number of operands that does not fit, or by the depth. -/
theorem Grown.node_eq_ok_iff {kind : NodeKind} {operands : List Grown} {grown : Grown} :
    Grown.node kind operands = .ok grown ↔
      kind.term? (operands.map Grown.term) = some grown.term ∧
        nestingDepth kind operands = grown.depth ∧ grown.depth ≤ maxDepth := by
  unfold Grown.node
  cases kind.term? (operands.map Grown.term) with
  | none => exact ⟨nofun, nofun⟩
  | some term =>
    by_cases deep : maxDepth < nestingDepth kind operands
    · simp only [if_pos deep]
      constructor
      · exact nofun
      · rintro ⟨_, same, shallow⟩
        exact absurd (same ▸ deep) (Nat.not_lt.2 shallow)
    · simp only [if_neg deep, Except.ok.injEq, Option.some.injEq]
      constructor
      · rintro rfl
        exact ⟨rfl, rfl, Nat.not_lt.1 deep⟩
      · rintro ⟨rfl, same, _⟩
        rw [same]

namespace Builder

section Looking

variable {α β : Type} {find : Builder → Except BuildError α} {next : α → Building β}
  {builder builder' : Builder}

/-- After a look the builder is what it was. -/
theorem look_bind_eq_ok_iff {value : β} :
    (look find >>= next) builder = .ok value builder' ↔
      ∃ found, find builder = .ok found ∧ next found builder = .ok value builder' := by
  show EStateM.bind (look find) next builder = _ ↔ _
  unfold EStateM.bind look
  cases find builder with
  | error error => exact ⟨nofun, fun ⟨_, found, _⟩ => nomatch found⟩
  | ok found => exact ⟨fun done => ⟨found, rfl, done⟩, fun ⟨_, .refl _, done⟩ => done⟩

/-- A look that finds something wrong leaves the builder as it was. -/
theorem look_bind_eq_error_iff {error : BuildError} :
    (look find >>= next) builder = .error error builder' ↔
      (find builder = .error error ∧ builder = builder') ∨
        ∃ found, find builder = .ok found ∧ next found builder = .error error builder' := by
  show EStateM.bind (look find) next builder = _ ↔ _
  unfold EStateM.bind look
  cases find builder with
  | error wrong => simp
  | ok found => simp

end Looking

/-- **A request that fails.**  There are too few or too many children, they cannot become operands,
or the node cannot grow over them.  The builder stays as it was, since the nodes are changed last
and nothing can go wrong then. -/
theorem node_eq_error_iff {builder builder' : Builder} {kind : NodeKind} {children : List Nat}
    {error : BuildError} :
    node kind children builder = .error error builder' ↔
      builder = builder' ∧ (checkCount kind children = .error error ∨
        checkCount kind children = .ok () ∧ (builder.operands children [] = .error error ∨
          ∃ operands, builder.operands children [] = .ok operands ∧
            Grown.node kind operands = .error error)) := by
  unfold node
  simp only [look_bind_eq_error_iff]
  constructor
  · rintro (⟨wrong, same⟩ | ⟨_, fits, ⟨wrong, same⟩ | ⟨operands, found, ⟨wrong, same⟩ | last⟩⟩)
    · exact ⟨same, .inl wrong⟩
    · exact ⟨same, .inr ⟨fits, .inl wrong⟩⟩
    · exact ⟨same, .inr ⟨fits, .inr ⟨operands, found, wrong⟩⟩⟩
    · obtain ⟨_, _, ⟨wrong, _⟩ | ⟨_, _, changed⟩⟩ := last
      · cases wrong
      · cases changed
  · rintro ⟨same, wrong | ⟨fits, wrong | ⟨operands, found, wrong⟩⟩⟩
    · exact .inl ⟨wrong, same⟩
    · exact .inr ⟨(), fits, .inl ⟨wrong, same⟩⟩
    · exact .inr ⟨(), fits, .inr ⟨operands, found, .inl ⟨wrong, same⟩⟩⟩

theorem step_of_error {builder : Builder} {kind : NodeKind} {children : List Nat}
    {error : BuildError} (failed : (builder.step kind children).2 = .error error) :
    (builder.step kind children).1 = builder := by
  unfold step at failed ⊢
  cases result : node kind children builder with
  | error error builder' => exact (node_eq_error_iff.1 result).1.symm
  | ok id builder' =>
    rw [result] at failed
    cases failed

/-- What holds of no nodes and is kept by every request that succeeds holds after any requests. -/
theorem after_induction {kept : Builder → Prop} (start : kept empty)
    (node : ∀ {builder builder' : Builder} {kind : NodeKind} {children : List Nat} {id : Nat},
      kept builder → node kind children builder = .ok id builder' → kept builder')
    (requests : List Request) : kept (after requests) := by
  induction requests using List.reverseRecOn with
  | nil => exact start
  | append_singleton requests request ih =>
    rw [after_concat, step]
    cases result : Builder.node request.1 request.2 (after requests) with
    | error error builder => exact (node_eq_error_iff.1 result).1 ▸ ih
    | ok id builder => exact node ih result

theorem checkCount_eq_ok_iff {kind : NodeKind} {children : List Nat} :
    checkCount kind children = .ok () ↔ kind.arity.accepts children.length = true := by
  unfold checkCount
  split <;> simp_all

/-- **A request that succeeds.**  Its children are different nodes without a parent, as many as
the kind takes, and the node over them is not too deep; they get the new node as their parent. -/
theorem node_eq_ok_iff {builder builder' : Builder} {kind : NodeKind} {children : List Nat}
    {id : Nat} :
    node kind children builder = .ok id builder' ↔
      kind.arity.accepts children.length = true ∧ children.Nodup ∧
        ∃ operands grown, List.Forall₂ builder.Free children operands ∧
          Grown.node kind operands = .ok grown ∧ id = builder.nodes.size ∧
          builder' = ⟨(attach builder.nodes children id).push ⟨kind, children, none, grown⟩⟩ := by
  unfold node
  simp only [look_bind_eq_ok_iff, operands_eq_ok_iff, List.not_mem_nil, not_false_eq_true,
    implies_true, true_and]
  constructor
  · rintro ⟨⟨⟩, fits, operands, ⟨nodup, free⟩, grown, grew, _, ⟨⟩, ⟨⟩⟩
    exact ⟨checkCount_eq_ok_iff.1 fits, nodup, operands, grown, free, grew, rfl, rfl⟩
  · rintro ⟨fits, nodup, operands, grown, free, grew, rfl, rfl⟩
    exact ⟨(), checkCount_eq_ok_iff.2 fits, operands, ⟨nodup, free⟩, grown, grew, _, rfl, rfl⟩

/-- The term of a node that is there. -/
def termAt (builder : Builder) (id : Nat) : Option Term :=
  builder.nodes[id]?.map fun node => node.grown.term

/-- A node is there and carries a term. -/
abbrev Carries (builder : Builder) (id : Nat) (term : Term) : Prop :=
  builder.termAt id = some term

/-! ## What a request leaves -/

@[simp] theorem size_attach (nodes : Array Node) (children : List Nat) (parent : Nat) :
    (attach nodes children parent).size = nodes.size := by
  unfold attach
  induction children generalizing nodes with
  | nil => rfl
  | cons child rest ih => rw [List.foldl_cons, ih, Array.size_modify]

/-- A node gets a new parent exactly if it is among the children. -/
theorem getElem?_attach (nodes : Array Node) (children : List Nat) (parent id : Nat) :
    (attach nodes children parent)[id]? =
      nodes[id]?.map fun node =>
        if id ∈ children then { node with parent := some parent } else node := by
  unfold attach
  induction children generalizing nodes with
  | nil => simp
  | cons child rest ih =>
    rw [List.foldl_cons, ih, Array.getElem?_modify]
    cases nodes[id]? with
    | none => simp
    | some node =>
      by_cases same : child = id
      · subst same
        by_cases again : child ∈ rest <;> simp [again]
      · simp [same, Ne.symm same]

section Added

variable {builder builder' : Builder} {kind : NodeKind} {children : List Nat} {id : Nat}
  (added : node kind children builder = .ok id builder')
include added

theorem size_of_added : builder'.nodes.size = builder.nodes.size + 1 := by
  obtain ⟨_, _, _, _, _, _, _, rfl⟩ := node_eq_ok_iff.1 added
  simp

theorem id_of_added : id = builder.nodes.size := by
  obtain ⟨_, _, _, _, _, _, same, _⟩ := node_eq_ok_iff.1 added
  exact same

/-- The node that was added. -/
theorem getElem?_added :
    ∃ grown, builder'.nodes[id]? = some ⟨kind, children, none, grown⟩ ∧
      ∃ operands, List.Forall₂ builder.Free children operands ∧
        Grown.node kind operands = .ok grown := by
  obtain ⟨_, _, operands, grown, free, grew, rfl, rfl⟩ := node_eq_ok_iff.1 added
  exact ⟨grown, by simp [Array.getElem_push], operands, free, grew⟩

/-- The nodes that were there before. -/
theorem getElem?_before {earlier : Nat} (before : earlier < builder.nodes.size) :
    builder'.nodes[earlier]? =
      builder.nodes[earlier]?.map fun node =>
        if earlier ∈ children then { node with parent := some id } else node := by
  obtain ⟨_, _, _, _, _, _, rfl, rfl⟩ := node_eq_ok_iff.1 added
  rw [Array.getElem?_push_lt (by simpa using before), ← getElem?_attach]
  simp [before]

/-- Every node is the one that was added or was there before, perhaps without a parent. -/
theorem cases_of_added {at' : Nat} {node' : Node} (found : builder'.nodes[at']? = some node') :
    (at' = id ∧ node'.kind = kind ∧ node'.children = children ∧ node'.parent = none) ∨
    at' < id ∧ ∃ node, builder.nodes[at']? = some node ∧ node'.kind = node.kind ∧
      node'.children = node.children ∧ node'.grown = node.grown ∧
      node'.parent = if at' ∈ children then some id else node.parent := by
  have last := id_of_added added
  have size := size_of_added added
  obtain ⟨inside, _⟩ := Array.getElem?_eq_some_iff.1 found
  rcases Nat.lt_or_eq_of_le (Nat.le_of_lt_succ (size ▸ inside)) with before | rfl
  · right
    rw [getElem?_before added before] at found
    obtain ⟨node, foundNode, rfl⟩ := Option.map_eq_some_iff.1 found
    refine ⟨last ▸ before, node, foundNode, ?_⟩
    by_cases member : at' ∈ children
    · simp [member]
    · simp [member]
  · left
    obtain ⟨grown, foundNew, _⟩ := getElem?_added added
    rw [last] at foundNew
    cases found.symm.trans foundNew
    exact ⟨last.symm, rfl, rfl, rfl⟩

/-- A node that was there before is still there, perhaps with a parent. -/
theorem exists_of_before {before : Nat} {node : Node}
    (found : builder.nodes[before]? = some node) :
    ∃ node', builder'.nodes[before]? = some node' ∧ node'.kind = node.kind ∧
      node'.children = node.children ∧ node'.grown = node.grown ∧
      node'.parent = if before ∈ children then some id else node.parent := by
  obtain ⟨inside, _⟩ := Array.getElem?_eq_some_iff.1 found
  rw [getElem?_before added inside, found]
  by_cases member : before ∈ children
  · exact ⟨{ node with parent := some id }, by simp [member]⟩
  · exact ⟨node, by simp [member]⟩

/-- The children of the added node were there before and had no parent. -/
theorem free_of_child {child : Nat} (member : child ∈ children) :
    child < id ∧ ∃ node, builder.nodes[child]? = some node ∧ node.parent = none := by
  obtain ⟨_, _, operands, _, free, _, last, _⟩ := node_eq_ok_iff.1 added
  obtain ⟨position, inside, rfl⟩ := List.getElem_of_mem member
  obtain ⟨node, found, detached, _⟩ := free.get inside (free.length_eq ▸ inside)
  obtain ⟨before, _⟩ := Array.getElem?_eq_some_iff.1 found
  exact ⟨last ▸ before, node, found, detached⟩

/-- A node is a child of the added node or of one to which it belonged before. -/
theorem exists_parent_iff {above child : Nat} :
    (∃ parent, builder'.nodes[above]? = some parent ∧ child ∈ parent.children) ↔
      (above = id ∧ child ∈ children) ∨
        ∃ parent, builder.nodes[above]? = some parent ∧ child ∈ parent.children := by
  constructor
  · rintro ⟨parent, found, member⟩
    rcases cases_of_added added found with ⟨rfl, _, same, _⟩ | ⟨_, node, before, _, same, _⟩
    · exact Or.inl ⟨rfl, same ▸ member⟩
    · exact Or.inr ⟨node, before, same ▸ member⟩
  · rintro (⟨rfl, member⟩ | ⟨parent, found, member⟩)
    · obtain ⟨grown, foundNew, _⟩ := getElem?_added added
      exact ⟨_, foundNew, member⟩
    · obtain ⟨parent', found', _, same, _⟩ := exists_of_before added found
      exact ⟨parent', found', same ▸ member⟩

theorem termAt_of_before {before : Nat} {term : Term} (found : builder.termAt before = some term) :
    builder'.termAt before = some term := by
  obtain ⟨node, foundNode, rfl⟩ := Option.map_eq_some_iff.1 found
  obtain ⟨node', found', _, _, same, _⟩ := exists_of_before added foundNode
  exact Option.map_eq_some_iff.2 ⟨node', found', congrArg Grown.term same⟩

end Added

/-! ## The forest -/

/-- What a builder holds after any requests. -/
structure Forest (builder : Builder) : Prop where
  /-- Children stand before their parent. -/
  child_lt : ∀ {id child : Nat} {node : Node}, builder.nodes[id]? = some node →
    child ∈ node.children → child < id
  /-- There are as many children as the kind takes. -/
  arity : ∀ {id : Nat} {node : Node}, builder.nodes[id]? = some node →
    node.kind.arity.accepts node.children.length = true
  /-- The parent of a node is the node among whose children it is. -/
  parent_iff : ∀ {id above : Nat} {node : Node}, builder.nodes[id]? = some node →
    (node.parent = some above ↔
      ∃ parent, builder.nodes[above]? = some parent ∧ id ∈ parent.children)
  /-- No node is among the children of a node twice. -/
  nodup : ∀ {id : Nat} {node : Node}, builder.nodes[id]? = some node → node.children.Nodup
  /-- The term of a node is its kind over the terms of its children. -/
  term : ∀ {id : Nat} {node : Node}, builder.nodes[id]? = some node →
    ∃ terms, List.Forall₂ (fun child term => builder.termAt child = some term)
      node.children terms ∧ node.kind.term? terms = some node.grown.term

theorem forest_empty : empty.Forest where
  child_lt found := nomatch found
  arity found := nomatch found
  parent_iff found := nomatch found
  nodup found := nomatch found
  term found := nomatch found

/-- **A request that succeeds keeps the forest.** -/
theorem Forest.node {builder builder' : Builder} {kind : NodeKind} {children : List Nat}
    {id : Nat} (forest : builder.Forest)
    (added : node kind children builder = .ok id builder') : builder'.Forest where
  child_lt {at' child node'} found member := by
    rcases cases_of_added added found with ⟨rfl, _, same, _⟩ | ⟨_, node, before, _, same, _⟩
    · exact (free_of_child added (same ▸ member)).1
    · exact forest.child_lt before (same ▸ member)
  arity {at' node'} found := by
    rcases cases_of_added added found with
      ⟨_, sameKind, same, _⟩ | ⟨_, node, before, sameKind, same, _⟩
    · rw [sameKind, same]
      exact (node_eq_ok_iff.1 added).1
    · rw [sameKind, same]
      exact forest.arity before
  nodup {at' node'} found := by
    rcases cases_of_added added found with ⟨_, _, same, _⟩ | ⟨_, node, before, _, same, _⟩
    · rw [same]
      exact (node_eq_ok_iff.1 added).2.1
    · rw [same]
      exact forest.nodup before
  parent_iff {at' above node'} found := by
    rw [exists_parent_iff added]
    rcases cases_of_added added found with
      ⟨rfl, _, _, detached⟩ | ⟨_, node, before, _, _, _, parent⟩
    · -- the added node has no parent, and nobody can have it as a child
      constructor
      · intro attached
        cases detached.symm.trans attached
      · rintro (⟨_, member⟩ | ⟨parent, before, member⟩)
        · exact absurd (free_of_child added member).1 (Nat.lt_irrefl _)
        · obtain ⟨inside, _⟩ := Array.getElem?_eq_some_iff.1 before
          have later := forest.child_lt before member
          have last := id_of_added added
          omega
    · rw [parent, ← forest.parent_iff before]
      by_cases member : at' ∈ children
      · obtain ⟨_, node', before', detached⟩ := free_of_child added member
        cases before.symm.trans before'
        simp [member, detached, eq_comm]
      · simp [member]
  term {at' node'} found := by
    rcases cases_of_added added found with ⟨rfl, _⟩ | ⟨_, node, before, sameKind, same, sameTerm, _⟩
    · obtain ⟨grown, foundNew, operands, free, grew⟩ := getElem?_added added
      cases found.symm.trans foundNew
      refine ⟨operands.map Grown.term, ?_, (Grown.node_eq_ok_iff.1 grew).1⟩
      refine List.forall₂_map_right_iff.2 (free.imp fun child grown isFree => ?_)
      obtain ⟨node, before, _, rfl⟩ := isFree
      exact termAt_of_before added (Option.map_eq_some_iff.2 ⟨node, before, rfl⟩)
    · obtain ⟨terms, all, made⟩ := forest.term before
      rw [sameKind, same, sameTerm]
      exact ⟨terms, all.imp fun _ _ => termAt_of_before added, made⟩

/-- A node of a connective has a left and a right child, which stand before it. -/
theorem Forest.exists_left_right {builder : Builder} (forest : builder.Forest) {id : Nat}
    {node : Node} {operator : Connective} (found : builder.nodes[id]? = some node)
    (isOf : node.kind = .connect operator) :
    ∃ left right, node.children = [left, right] ∧ left < id ∧ right < id := by
  have fits := forest.arity found
  rw [isOf] at fits
  obtain ⟨left, right, children⟩ := List.length_eq_two.1 (of_decide_eq_true fits)
  exact ⟨left, right, children, forest.child_lt found (by simp [children]),
    forest.child_lt found (by simp [children])⟩

/-- A node that carries a term is of its kind, over nodes that carry its operands. -/
theorem Forest.node_of_carries {builder : Builder} (forest : builder.Forest) {id : Nat}
    {term : Term} (carries : builder.Carries id term) :
    ∃ node, builder.nodes[id]? = some node ∧ node.kind = term.kind ∧
      List.Forall₂ builder.Carries node.children term.operands := by
  obtain ⟨node, found, rfl⟩ := Option.map_eq_some_iff.1 carries
  obtain ⟨terms, children, made⟩ := forest.term found
  obtain ⟨sameKind, rfl⟩ := Term.term?_eq_some made
  exact ⟨node, found, sameKind.symm, children⟩

/-- If all nodes are of permitted kinds, so are those of the terms that they carry. -/
theorem Forest.only {builder : Builder} (forest : builder.Forest) {permitted : NodeKind → Prop}
    (all : ∀ (id : Nat) (node : Node), builder.nodes[id]? = some node → permitted node.kind)
    {id : Nat} {term : Term} (carries : builder.Carries id term) : term.Only permitted := by
  induction term using Term.operandInduction generalizing id with
  | step term ih =>
    obtain ⟨node, found, sameKind, children⟩ := forest.node_of_carries carries
    refine .node (sameKind ▸ all id node found) fun operand member => ?_
    obtain ⟨position, inside, rfl⟩ := List.getElem_of_mem member
    exact ih _ member (children.get (children.length_eq ▸ inside) inside)

/-- **After any requests the builder holds a forest.** -/
theorem forest_after (requests : List Request) : (after requests).Forest :=
  after_induction forest_empty Forest.node requests

end Builder

/-- What holds of the kinds of all nodes holds of the kind of each. -/
theorem Node.forall_of_kinds {nodes : Array Node} {kinds : List NodeKind}
    {permitted : NodeKind → Prop} (same : nodes.toList.map Node.kind = kinds)
    (each : ∀ kind ∈ kinds, permitted kind) :
    ∀ (id : Nat) (node : Node), nodes[id]? = some node → permitted node.kind := by
  intro id node found
  refine each _ (same ▸ List.mem_map_of_mem ?_)
  exact Array.mem_toList_iff.2 (Array.mem_of_getElem? found)

end Sift
