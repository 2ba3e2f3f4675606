import Sift.Proofs.Expression.Insertion

/-!
# The order of nodes

The nodes of a term that is laid out stand in post-order: the operands of a node, from left to
right, each behind all of its own parts, and then the node.  This can be said in two ways, of the
tree that the children of the nodes make up and of the terms that the nodes carry.  Going through
the tree in post-order visits the positions one after the other (`postorderFrom`), so every node is
visited, and only once; and the nodes carry the parts of the term in their post-order
(`Term.postorder`).  Both follow from what laying out terms adds to a builder
(`Builder.insert_listed`).
-/

set_option autoImplicit false

namespace Sift

/-! ## Post-order of terms -/

namespace Term

/-- The parts of a term, the operands of a node before the node itself. -/
def postorder (term : Term) : List Term :=
  (term.operands.attach.flatMap fun operand => operand.val.postorder) ++ [term]
termination_by sizeOf term
decreasing_by exact sizeOf_lt_of_mem_operands operand.property

theorem postorder_eq (term : Term) :
    term.postorder = term.operands.flatMap postorder ++ [term] := by
  rw [postorder, ← List.flatMap_map (f := Subtype.val), List.attach_map_subtype_val]

end Term

/-! ## Post-order of nodes -/

/-- A node apart from its parent.  So much of a node stays when others are added. -/
def Node.lasting (node : Node) : Node :=
  { node with parent := none }

/-- The positions of the nodes below a node, from left to right and children before their parent,
and then that of the node itself. -/
def postorderFrom (nodes : Array Node) (id : Nat) : List Nat :=
  match nodes[id]? with
  | none => []
  | some node =>
    (node.children.flatMap fun child =>
      if child < id then postorderFrom nodes child else []) ++ [id]
termination_by id

/-- The positions of the nodes of an expression, in post-order. -/
def Expression.postorder (expression : Expression) : List Nat :=
  postorderFrom expression.nodes expression.root

theorem postorderFrom_eq {nodes : Array Node} {id : Nat} {node : Node}
    (found : nodes[id]? = some node) (before : ∀ child ∈ node.children, child < id) :
    postorderFrom nodes id = node.children.flatMap (postorderFrom nodes) ++ [id] := by
  rw [postorderFrom, found]
  refine congrArg (· ++ [id]) ?_
  refine List.flatMap_congr fun child member => ?_
  rw [if_pos (before child member)]

/-- What stands behind a node does not matter to it. -/
theorem postorderFrom_congr {nodes nodes' : Array Node} {id : Nat}
    (same : ∀ i ≤ id, nodes'[i]?.map Node.lasting = nodes[i]?.map Node.lasting) :
    postorderFrom nodes' id = postorderFrom nodes id := by
  induction id using Nat.strongRecOn with
  | ind id ih =>
    have here := same id (Nat.le_refl _)
    rw [postorderFrom, postorderFrom]
    generalize nodes'[id]? = found' at here ⊢
    generalize nodes[id]? = found at here ⊢
    rcases found' with _ | node' <;> rcases found with _ | node
    · rfl
    · cases here
    · cases here
    · have kept : node'.lasting = node.lasting := Option.some.inj here
      have children : node'.children = node.children := (congrArg Node.children kept :)
      dsimp only
      rw [children]
      refine congrArg (· ++ [id]) (List.flatMap_congr fun child _ => ?_)
      split_ifs with inside
      · exact ih child inside fun i before => same i (by omega)
      · rfl

/-! ## Laying out terms -/

/-- What a node shows: its kind and the term it carries. -/
def Node.shown (node : Node) : NodeKind × Term :=
  (node.kind, node.grown.term)

/-- What the root node of a term shows. -/
def Term.shown (term : Term) : NodeKind × Term :=
  (term.kind, term)

namespace Builder

theorem getElem?_attach_lasting (nodes : Array Node) (children : List Nat) (parent id : Nat) :
    (attach nodes children parent)[id]?.map Node.lasting = nodes[id]?.map Node.lasting := by
  rw [getElem?_attach, Option.map_map]
  refine congrArg (Option.map · nodes[id]?) (funext fun node => ?_)
  rw [Function.comp_apply]
  split_ifs <;> rfl

theorem map_shown_attach (nodes : Array Node) (children : List Nat) (parent : Nat) :
    (attach nodes children parent).toList.map Node.shown = nodes.toList.map Node.shown := by
  refine List.ext_getElem? fun id => ?_
  have same := congrArg (Option.map Node.shown) (getElem?_attach_lasting nodes children parent id)
  rw [Option.map_map, Option.map_map] at same
  rw [List.getElem?_map, List.getElem?_map, Array.getElem?_toList, Array.getElem?_toList]
  exact same

/-- Terms were laid out in a builder in post-order, and these are the positions of their roots. -/
structure Listed (builder builder' : Builder) (terms : List Term) (ids : List Nat) : Prop where
  grows : builder.nodes.size ≤ builder'.nodes.size
  before : ∀ id < builder.nodes.size,
    builder'.nodes[id]?.map Node.lasting = builder.nodes[id]?.map Node.lasting
  carries : List.Forall₂ builder'.Carries ids terms
  /-- The new nodes show the parts of the terms. -/
  shows : builder'.nodes.toList.map Node.shown =
    builder.nodes.toList.map Node.shown ++ (terms.flatMap Term.postorder).map Term.shown
  /-- Going through the nodes of the terms visits the new positions. -/
  visits : ids.flatMap (postorderFrom builder'.nodes) =
    List.range' builder.nodes.size (builder'.nodes.size - builder.nodes.size)

theorem Carries.lt {builder : Builder} {id : Nat} {term : Term}
    (carries : builder.Carries id term) : id < builder.nodes.size := by
  obtain ⟨node, found, _⟩ := Option.map_eq_some_iff.1 carries
  exact (Array.getElem?_eq_some_iff.1 found).1

theorem Carries.of_lasting {builder builder' : Builder} {id : Nat} {term : Term}
    (same : builder'.nodes[id]?.map Node.lasting = builder.nodes[id]?.map Node.lasting)
    (carries : builder.Carries id term) : builder'.Carries id term := by
  have terms := congrArg (Option.map fun node => node.grown.term) same
  rw [Option.map_map, Option.map_map] at terms
  exact terms.trans carries

theorem Listed.nil (builder : Builder) : Listed builder builder [] [] where
  grows := Nat.le_refl _
  before _ _ := rfl
  carries := .nil
  shows := by simp
  visits := by simp

/-- One term and then others. -/
theorem Listed.cons {builder builder₁ builder₂ : Builder} {term : Term} {terms : List Term}
    {id : Nat} {ids : List Nat} (first : Listed builder builder₁ [term] [id])
    (rest : Listed builder₁ builder₂ terms ids) :
    Listed builder builder₂ (term :: terms) (id :: ids) := by
  have carried := (List.forall₂_cons.1 first.carries).1
  have inside := carried.lt
  have grows := first.grows
  have growsRest := rest.grows
  refine ⟨Nat.le_trans grows growsRest, fun i before => ?_, ?_, ?_, ?_⟩
  · rw [rest.before i (Nat.lt_of_lt_of_le before grows), first.before i before]
  · exact .cons (.of_lasting (rest.before id inside) carried) rest.carries
  · rw [rest.shows, first.shows]
    simp
  · have visitsFirst := first.visits
    rw [List.flatMap_singleton] at visitsFirst
    rw [List.flatMap_cons, rest.visits, postorderFrom_congr fun i atMost =>
      rest.before i (Nat.lt_of_le_of_lt atMost inside), visitsFirst]
    have middle : builder₁.nodes.size =
        builder.nodes.size + (builder₁.nodes.size - builder.nodes.size) := by omega
    nth_rewrite 2 [middle]
    rw [List.range'_append_1]
    congr 1
    omega

/-- A node that is added over operands of its own carries the term. -/
theorem exists_push_of_added {builder builder' : Builder} {term : Term} {ids : List Nat} {id : Nat}
    (operands : List.Forall₂ builder.Carries ids term.operands)
    (added : node term.kind ids builder = .ok id builder') :
    ∃ grown, builder' = ⟨(attach builder.nodes ids id).push ⟨term.kind, ids, none, grown⟩⟩ ∧
      grown.term = term := by
  obtain ⟨fits, _, growns, grown, free, grew, _, same⟩ := node_eq_ok_iff.1 added
  have carried : List.Forall₂ builder.Carries ids (growns.map Grown.term) := by
    refine List.forall₂_map_right_iff.2 (free.imp fun child grown isFree => ?_)
    obtain ⟨node, found, _, rfl⟩ := isFree
    exact Option.map_eq_some_iff.2 ⟨node, found, rfl⟩
  have functional : Relator.RightUnique builder.Carries := fun _ _ _ first second =>
    Option.some.inj (first.symm.trans second)
  have made := (Grown.node_eq_ok_iff.1 grew).1
  rw [List.right_unique_forall₂' functional carried operands,
    Term.term?_operands (operands.length_eq ▸ fits)] at made
  exact ⟨grown, same, (Option.some.inj made).symm⟩

/-- A node over operands that were laid out. -/
theorem Listed.node {builder builder₁ builder₂ : Builder} {term : Term} {ids : List Nat}
    {id : Nat} (operands : Listed builder builder₁ term.operands ids)
    (added : Builder.node term.kind ids builder₁ = .ok id builder₂) :
    Listed builder builder₂ [term] [id] := by
  have size := size_of_added added
  have last := id_of_added added
  have grows := operands.grows
  have children (child : Nat) (member : child ∈ ids) : child < id :=
    (free_of_child added member).1
  have kept (i : Nat) (before : i < builder₁.nodes.size) :
      builder₂.nodes[i]?.map Node.lasting = builder₁.nodes[i]?.map Node.lasting := by
    rw [getElem?_before added before, ← getElem?_attach, getElem?_attach_lasting]
  obtain ⟨grown, same, isTerm⟩ := exists_push_of_added operands.carries added
  have found : builder₂.nodes[id]? = some ⟨term.kind, ids, none, grown⟩ := by
    simp [same, last, Array.getElem_push]
  refine ⟨by omega, fun i before => ?_, ?_, ?_, ?_⟩
  · rw [kept i (Nat.lt_of_lt_of_le before grows), operands.before i before]
  · exact .cons (Option.map_eq_some_iff.2 ⟨_, found, isTerm⟩) .nil
  · rw [same, Array.toList_push, List.map_append, map_shown_attach, operands.shows]
    simp [Node.shown, Term.shown, isTerm, term.postorder_eq]
  · have operandsVisit : ids.flatMap (postorderFrom builder₂.nodes) =
        ids.flatMap (postorderFrom builder₁.nodes) := by
      refine List.flatMap_congr fun child member => postorderFrom_congr fun i atMost => kept i ?_
      have := children child member
      omega
    rw [List.flatMap_singleton, postorderFrom_eq found children, operandsVisit, operands.visits,
      size, last, Nat.sub_add_comm grows, List.range'_1_concat]
    congr 2
    omega

/-- Terms that are each laid out in post-order are so one after the other. -/
theorem insertAll_listed {terms : List Term}
    (each : ∀ term ∈ terms, ∀ {builder builder' : Builder} {id : Nat},
      insert term builder = .ok id builder' → Listed builder builder' [term] [id])
    {builder builder' : Builder} {ids : List Nat}
    (inserted : insertAll terms builder = .ok ids builder') :
    Listed builder builder' terms ids := by
  induction terms generalizing builder ids with
  | nil =>
    obtain ⟨rfl, rfl⟩ := insertAll_nil_eq_ok_iff.1 inserted
    exact .nil _
  | cons term rest ih =>
    obtain ⟨first, others⟩ := List.forall_mem_cons.1 each
    obtain ⟨id, builder₁, idsRest, insertedFirst, insertedRest, rfl⟩ :=
      insertAll_cons_eq_ok_iff.1 inserted
    exact (first insertedFirst).cons (ih others insertedRest)

/-- **A term that can be laid out is laid out in post-order.** -/
theorem insert_listed {builder builder' : Builder} {term : Term} {id : Nat}
    (inserted : insert term builder = .ok id builder') :
    Listed builder builder' [term] [id] := by
  induction term using Term.operandInduction generalizing builder builder' id with
  | step term ih =>
    rw [insert_eq] at inserted
    obtain ⟨ids, builder₁, insertedAll, added⟩ := run_bind_eq_ok_iff.1 inserted
    exact (insertAll_listed (fun operand member _ _ _ => ih operand member) insertedAll).node added

/-- The root of a term is the last node that is added for it. -/
theorem size_of_insert {builder builder' : Builder} {term : Term} {id : Nat}
    (inserted : insert term builder = .ok id builder') : id + 1 = builder'.nodes.size := by
  rw [insert_eq] at inserted
  obtain ⟨ids, builder₁, _, added⟩ := run_bind_eq_ok_iff.1 inserted
  rw [id_of_added added, size_of_added added]

end Builder

/-! ## Finished expressions -/

namespace Expression

variable {term : Term} {expression : Expression}
  (finished : Expression.ofTerm term = .ok expression)
include finished

/-- What became of the term: its nodes were laid out in an empty builder, and then it was finished
at its root. -/
theorem exists_inserted_of_ofTerm :
    ∃ builder : Builder, Builder.insert term .empty = .ok expression.root builder ∧
      expression.nodes = builder.nodes ∧ expression.term = term := by
  obtain ⟨root, builder, inserted, built⟩ := Expression.ofTerm_eq_ok_iff.1 finished
  obtain ⟨_, sameNodes, rfl⟩ := Builder.build_eq_ok_iff.1 built
  refine ⟨builder, inserted, sameNodes, ?_⟩
  have carried := (List.forall₂_cons.1 (Builder.insert_listed inserted).carries).1
  exact Option.some.inj ((Builder.termAt_root built).symm.trans carried)

theorem postorder_ofTerm : expression.postorder = List.range expression.size := by
  obtain ⟨builder, inserted, same, _⟩ := exists_inserted_of_ofTerm finished
  have visits := (Builder.insert_listed inserted).visits
  rw [List.flatMap_singleton] at visits
  rw [postorder, size, same, visits, List.range_eq_range']
  rfl

theorem shown_ofTerm :
    expression.nodes.toList.map Node.shown = term.postorder.map Term.shown := by
  obtain ⟨builder, inserted, same, _⟩ := exists_inserted_of_ofTerm finished
  rw [same, (Builder.insert_listed inserted).shows, List.flatMap_singleton]
  rfl

theorem root_ofTerm : expression.root + 1 = expression.size := by
  obtain ⟨builder, inserted, same, _⟩ := exists_inserted_of_ofTerm finished
  rw [size, same, Builder.size_of_insert inserted]

end Expression

end Sift
