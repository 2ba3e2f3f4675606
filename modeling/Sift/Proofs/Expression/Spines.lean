import Sift.Proofs.Expression.Lookups
import Sift.Proofs.Expression.Postorder

/-!
# The spine of a run

A run of a connective is gathered by going down left children.  The nodes that are passed on the way
make up its spine, and the operands hang off it: the first at its lower end, and one as the right
child of every node of the spine.  So the spine is what comes of folding the operands from the left
with the connective (`Nodes.Folds`), and an induction on this folding gives all that there is to say
about the operands of a run.  They carry the terms from which the term of the run is folded
(`Builder.Forest.terms_of_folds`), and going through the nodes of a run in post-order without those
of its spine is going through the nodes of its operands one after the other
(`Builder.Forest.filter_postorderFrom`).

The loop that gathers a run stops at the first node that is not of the connective
(`Builder.Forest.exists_folds`), and it comes to an end because children stand before their parent.
-/

set_option autoImplicit false

namespace Sift

/-! ## The nodes below a node -/

/-- The node that is left on a visit, if one is. -/
def leftOn : Nat × Bool → Option Nat
  | (id, leaving) => if leaving then some id else none

theorem leftOn_eq_some_iff {visit : Nat × Bool} {id : Nat} :
    leftOn visit = some id ↔ visit = (id, true) := by
  obtain ⟨last, leaving⟩ := visit
  cases leaving <;> simp [leftOn]

namespace Builder.Forest

variable {builder : Builder} (forest : builder.Forest)
include forest

/-- The post-order is the order in which the nodes are left. -/
theorem postorderFrom_eq_filterMap {id : Nat} (inside : id < builder.nodes.size) :
    postorderFrom builder.nodes id = (visitsFrom builder.nodes id).filterMap leftOn := by
  induction id using Nat.strong_induction_on with
  | h id ih =>
    have found := Array.getElem?_eq_getElem inside
    have before (child : Nat) (member : child ∈ builder.nodes[id].children) : child < id :=
      forest.child_lt found member
    have below : builder.nodes[id].children.flatMap (postorderFrom builder.nodes) =
        builder.nodes[id].children.flatMap fun child =>
          (visitsFrom builder.nodes child).filterMap leftOn :=
      List.flatMap_congr fun child member =>
        ih child (before child member) (Nat.lt_trans (before child member) inside)
    rw [postorderFrom_eq found before, below, forest.visitsFrom_eq found]
    simp [List.filterMap_append, List.filterMap_flatMap, leftOn]

/-- The post-order from a node has the nodes to which a path leads. -/
theorem mem_postorderFrom {id last : Nat} (inside : id < builder.nodes.size) :
    last ∈ postorderFrom builder.nodes id ↔ ∃ path, follow builder.nodes id path = some last := by
  have left : (last, true) ∈ visitsFrom builder.nodes id ↔ _ := forest.mem_visitsFrom inside
  rw [forest.postorderFrom_eq_filterMap inside, ← left, List.mem_filterMap]
  simp only [leftOn_eq_some_iff, exists_eq_right]

/-- No node comes twice. -/
theorem nodup_postorderFrom {id : Nat} (inside : id < builder.nodes.size) :
    (postorderFrom builder.nodes id).Nodup := by
  rw [forest.postorderFrom_eq_filterMap inside]
  refine (forest.nodup_visitsFrom inside).filterMap fun visit visit' last left left' => ?_
  exact (leftOn_eq_some_iff.1 left).trans (leftOn_eq_some_iff.1 left').symm

end Builder.Forest

/-! ## Folding -/

namespace Nodes

/-- Folding nodes from the left with a connective: to `first` each of `rest` is joined in turn, by a
node of the connective that has as children what there is so far and the next.  The `spine` has the
nodes that join, of which the last is where the folding ends. -/
inductive Folds (nodes : Nodes) (operator : Connective) (first : Nat) :
    List Nat → List Nat → Nat → Prop where
  | nil : Folds nodes operator first [] [] first
  | concat {rest spine : List Nat} {left right id : Nat} {node : Node}
      (folded : Folds nodes operator first rest spine left)
      (found : nodes[id]? = some node) (isOf : node.kind = .connect operator)
      (children : node.children = [left, right]) :
      Folds nodes operator first (rest ++ [right]) (spine ++ [id]) id

end Nodes

namespace Builder.Forest

open Nodes

variable {builder : Builder} (forest : builder.Forest)
include forest

/-- **The operands that are gathered fold to the node from which they are gathered.**  The first is
the node at which the loop stops, so it is not of the connective. -/
theorem exists_folds (operator : Connective) {id : Nat} (inside : id < builder.nodes.size)
    (later : List Nat) :
    ∃ first rest spine, Folds builder.nodes operator first rest spine id ∧
      Expression.runBefore builder.nodes operator id later = first :: rest ++ later ∧
      ∃ start, builder.nodes[first]? = some start ∧ start.kind ≠ .connect operator := by
  induction id using Nat.strong_induction_on generalizing later with
  | h id ih =>
    obtain ⟨⟨kind, children, parent, grown⟩, found⟩ :
      ∃ node, builder.nodes[id]? = some node := ⟨_, Array.getElem?_eq_getElem inside⟩
    rw [Expression.runBefore, found]
    by_cases isOf : kind = .connect operator
    · obtain ⟨left, right, rfl, before, _⟩ := forest.exists_left_right found isOf
      obtain ⟨first, rest, spine, folded, gathered, stops⟩ :=
        ih left before (Nat.lt_trans before inside) (right :: later)
      refine ⟨first, rest ++ [right], spine ++ [id], folded.concat found isOf rfl, ?_, stops⟩
      simp [isOf, before, gathered]
    · refine ⟨id, [], [], .nil, ?_, _, found, isOf⟩
      cases kind with
      | connect operator' =>
        obtain ⟨left, right, rfl, _⟩ := forest.exists_left_right found rfl
        have other : operator' ≠ operator := fun same => isOf (congrArg NodeKind.connect same)
        simp [other]
      | _ => rfl

/-- The terms of the operands fold to that of the run. -/
theorem terms_of_folds {operator : Connective} {first id : Nat} {rest spine : List Nat}
    (folds : Folds builder.nodes operator first rest spine id) {term : Term}
    (carries : builder.Carries id term) :
    ∃ head others, builder.Carries first head ∧ List.Forall₂ builder.Carries rest others ∧
      others.foldl (Term.connect operator) head = term := by
  induction folds generalizing term with
  | nil => exact ⟨term, [], carries, .nil, rfl⟩
  | @concat rest spine left right id node folded found isOf children ih =>
    obtain ⟨node', found', sameKind, operands⟩ := forest.node_of_carries carries
    cases found.symm.trans found'
    cases term with
    | connect operator' leftTerm rightTerm =>
      cases isOf.symm.trans sameKind
      rw [children] at operands
      obtain _ | ⟨carriesLeft, _ | ⟨carriesRight, _ | _⟩⟩ := operands
      obtain ⟨head, others, carriesHead, carriesOthers, folded⟩ := ih carriesLeft
      refine ⟨head, others ++ [rightTerm], carriesHead,
        List.rel_append carriesOthers (.cons carriesRight .nil), ?_⟩
      rw [List.foldl_concat, folded]
    | _ => cases isOf.symm.trans sameKind

/-- The post-order from a node of a connective. -/
theorem postorderFrom_join {id left right : Nat} {node : Node}
    (found : builder.nodes[id]? = some node) (children : node.children = [left, right]) :
    postorderFrom builder.nodes id =
      postorderFrom builder.nodes left ++ postorderFrom builder.nodes right ++ [id] := by
  rw [postorderFrom_eq found fun _ member => forest.child_lt found member, children]
  simp

/-- The nodes of the spine are in the post-order from the node where it ends. -/
theorem mem_postorderFrom_of_folds {operator : Connective} {first id : Nat} {rest spine : List Nat}
    (folds : Folds builder.nodes operator first rest spine id) :
    ∀ last ∈ spine, last ∈ postorderFrom builder.nodes id := by
  induction folds with
  | nil => exact nofun
  | concat _ found _ children ih =>
    intro last member
    rw [forest.postorderFrom_join found children]
    rcases List.mem_append.1 member with inner | outer
    · simp [ih last inner]
    · simp [List.mem_singleton.1 outer]

/-- **Without its spine a run is its operands.** -/
theorem filter_postorderFrom {operator : Connective} {first id : Nat} {rest spine : List Nat}
    (folds : Folds builder.nodes operator first rest spine id) (inside : id < builder.nodes.size) :
    (postorderFrom builder.nodes id).filter (fun last => last ∉ spine) =
      (first :: rest).flatMap (postorderFrom builder.nodes) := by
  induction folds with
  | nil => simp
  | @concat rest spine left right id node folded found isOf children ih =>
    have before : left < id := forest.child_lt found (by simp [children])
    have inner := ih (Nat.lt_trans before inside)
    have once := forest.nodup_postorderFrom inside
    rw [forest.postorderFrom_join found children] at once ⊢
    obtain ⟨once, _, last⟩ := List.nodup_append.1 once
    obtain ⟨_, _, apart⟩ := List.nodup_append.1 once
    have notLast (node : Nat) (member : node ∈ postorderFrom builder.nodes left ++
        postorderFrom builder.nodes right) : node ≠ id := last node member id (by simp)
    have onLeft : (postorderFrom builder.nodes left).filter (fun node => node ∉ spine ++ [id]) =
        (postorderFrom builder.nodes left).filter (fun node => node ∉ spine) := by
      refine List.filter_congr fun node member => ?_
      simp [notLast node (List.mem_append_left _ member)]
    -- the spine goes on to the left, so nothing on the right is of it
    have onRight : (postorderFrom builder.nodes right).filter (fun node => node ∉ spine ++ [id]) =
        postorderFrom builder.nodes right := by
      refine List.filter_eq_self.2 fun node member => ?_
      have notInner : node ∉ spine := fun inSpine =>
        apart node (forest.mem_postorderFrom_of_folds folded node inSpine) node member rfl
      simp [notInner, notLast node (List.mem_append_right _ member)]
    rw [List.filter_append, List.filter_append, onLeft, onRight, inner]
    simp

end Builder.Forest

/-! ## Finished expressions -/

namespace Expression

/-- **The operands of a run are faithful to it.**  From every node of a connective in a finished
expression the loop over left children comes to an end, with two operands or more.  The first is no
node of the connective.  Folding the operands from the left gives the node back, over the nodes of a
spine as over the terms.  Going through the nodes below in post-order without those of the spine is
going through the operands one after the other, in their order; what is gone through is all that is
below, and no node comes twice. -/
theorem chainOperands_faithful {requests : List Builder.Request} {root : Nat}
    {expression : Expression} (built : (Builder.after requests).build root = .ok expression)
    {id : Nat} {node : Node} {operator : Connective} (found : expression.nodes[id]? = some node)
    (isOf : node.kind = .connect operator) :
    ∃ first rest spine,
      Nodes.chainOperands expression.nodes id = some (first :: rest) ∧
      expression.chainOperands id = first :: rest ∧ rest ≠ [] ∧
      (∃ start, expression.nodes[first]? = some start ∧ start.kind ≠ .connect operator) ∧
      Nodes.Folds expression.nodes operator first rest spine id ∧
      (∃ head others, List.Forall₂ (Builder.mk expression.nodes).Carries (first :: rest)
          (head :: others) ∧ others.foldl (Term.connect operator) head = node.grown.term) ∧
      (∀ last, last ∈ postorderFrom expression.nodes id ↔
        ∃ path, follow expression.nodes id path = some last) ∧
      (postorderFrom expression.nodes id).filter (fun last => last ∉ spine) =
        (first :: rest).flatMap (postorderFrom expression.nodes) ∧
      (postorderFrom expression.nodes id).Nodup := by
  have forest := forest_of_build built
  have inside : id < expression.nodes.size := (Array.getElem?_eq_some_iff.1 found).1
  have carries : (Builder.mk expression.nodes).Carries id node.grown.term :=
    Option.map_eq_some_iff.2 ⟨node, found, rfl⟩
  obtain ⟨first, rest, spine, folds, gathered, stops⟩ := forest.exists_folds operator inside []
  rw [List.append_nil] at gathered
  have operands : expression.chainOperands id = first :: rest := by
    obtain ⟨kind, children, parent, grown⟩ := node
    obtain rfl : kind = .connect operator := isOf
    rw [chainOperands, found]
    exact gathered
  have loop := Nodes.chainOperands_eq forest inside
  obtain ⟨head, others, carriesHead, carriesOthers, folded⟩ := forest.terms_of_folds folds carries
  refine ⟨first, rest, spine, operands ▸ loop, operands, ?_, stops, folds,
    ⟨head, others, .cons carriesHead carriesOthers, folded⟩,
    fun last => forest.mem_postorderFrom inside, forest.filter_postorderFrom folds inside,
    forest.nodup_postorderFrom inside⟩
  -- the loop does not stop where it starts, so something is joined
  intro alone
  cases folds with
  | nil =>
    obtain ⟨start, foundStart, other⟩ := stops
    cases found.symm.trans foundStart
    exact other isOf
  | concat => exact List.append_ne_nil_of_right_ne_nil _ (List.cons_ne_nil _ _) alone

/-- A disjunction of three, the first of which is a conjunction, where the run stops. -/
theorem chainOperands_faithful_mixed :
    ∃ expression node spine,
      (Builder.after [(.property "a", []), (.property "b", []), (.connect .and, [0, 1]),
        (.property "c", []), (.connect .or, [2, 3]), (.property "d", []),
        (.connect .or, [4, 5])]).build 6 = .ok expression ∧
      expression.nodes[6]? = some node ∧ node.kind = .connect .or ∧
      Nodes.chainOperands expression.nodes 6 = some [2, 3, 5] ∧
      Nodes.Folds expression.nodes .or 2 [3, 5] spine 6 ∧
      (postorderFrom expression.nodes 6).filter (fun last => last ∉ spine) =
        [2, 3, 5].flatMap (postorderFrom expression.nodes) := by
  obtain ⟨expression, built, outer, inner, first⟩ : ∃ expression,
      (Builder.after [(.property "a", []), (.property "b", []), (.connect .and, [0, 1]),
        (.property "c", []), (.connect .or, [2, 3]), (.property "d", []),
        (.connect .or, [4, 5])]).build 6 = .ok expression ∧
      (∃ parent grown, expression.nodes[6]? = some ⟨.connect .or, [4, 5], parent, grown⟩) ∧
      (∃ parent grown, expression.nodes[4]? = some ⟨.connect .or, [2, 3], parent, grown⟩) ∧
      ∃ parent grown, expression.nodes[2]? = some ⟨.connect .and, [0, 1], parent, grown⟩ :=
    ⟨_, rfl, ⟨_, _, rfl⟩, ⟨_, _, rfl⟩, _, _, rfl⟩
  obtain ⟨_, _, foundOuter⟩ := outer
  obtain ⟨_, _, foundInner⟩ := inner
  obtain ⟨_, _, foundFirst⟩ := first
  obtain ⟨first, rest, spine, loop, operands, _, _, folds, _, _, without, _⟩ :=
    chainOperands_faithful built foundOuter rfl
  have gathered : expression.chainOperands 6 = [2, 3, 5] := by
    simp [chainOperands, runBefore, foundOuter, foundInner, foundFirst]
  obtain ⟨rfl, rfl⟩ := List.cons.inj (operands.symm.trans gathered)
  exact ⟨expression, _, spine, built, foundOuter, rfl, loop, folds, without⟩

end Expression

end Sift
