import Sift.Expression.Typing
import Sift.Proofs.Expression.Depth
import Sift.Proofs.Expression.Runs

/-!
# Levels of recursion

The depth that a builder keeps for a node is computed by a rule of its own for connectives, which
looks at the left side only.  It is nevertheless the number of levels that evaluation and checking
go down: one more than the largest depth among the operands they go on with, which for a connective
are all operands of its run (`Term.depth_eq_flatOperands`).

Both walks are one recursion with a rule for nodes.  It is given a number of levels here and ends
without a result when it needs more (`Expression.workOut`).  It has a result exactly when the depth
of the node is among the levels, and this is then the value, or the kind, of the term that the node
carries (`Expression.workOut_eq`).  Since no builder has a node that is deeper than the limit,
neither walk ever goes deeper, however many nodes there are.
-/

set_option autoImplicit false

namespace Sift

/-! ## The depth of a run -/

theorem deepest_concat (depths : List Nat) (last : Nat) :
    deepest (depths ++ [last]) = max (deepest depths) last := by
  rw [deepest, List.foldr_append, List.foldr_cons, List.foldr_nil, Nat.max_comm last 0,
    List.foldr_assoc]
  rfl

namespace Term

@[simp] theorem continues_connect (operator : Connective) (left right : Term) :
    (connect operator left right).continues operator = true := by
  simp [continues]

theorem depth_connect (operator : Connective) (left right : Term) :
    (connect operator left right).depth =
      if left.continues operator then max left.depth (right.depth + 1)
      else 1 + max left.depth right.depth := by
  rw [depth_eq]
  rfl

/-- The run that ends in a term is as deep as the term, if it goes on there, and else one level
deeper. -/
theorem depth_runBefore (operator : Connective) (term : Term) :
    1 + deepest ((term.runBefore operator []).map depth) =
      if term.continues operator then term.depth else 1 + term.depth := by
  induction term with
  | connect operator' left right ihLeft _ =>
    by_cases same : operator' = operator
    · subst same
      have run : (connect operator' left right).runBefore operator' [] =
          left.runBefore operator' [] ++ [right] := by
        rw [runBefore, if_pos rfl, runBefore_append]
      rw [run, List.map_append, List.map_singleton, deepest_concat,
        if_pos (continues_connect ..), depth_connect]
      split_ifs at ihLeft ⊢ with leftGoesOn <;> omega
    · simp [runBefore, continues, same, deepest]
  | _ => simp [runBefore, continues, deepest]

/-- **A term is one level deeper than the deepest of the terms it is evaluated on.** -/
theorem depth_eq_flatOperands (term : Term) :
    term.depth = 1 + deepest (term.flatOperands.map depth) := by
  cases term with
  | connect operator left right =>
    have run : (connect operator left right).runBefore operator [] =
        (connect operator left right).flatOperands := by
      rw [runBefore, if_pos rfl]
      rfl
    rw [← run, depth_runBefore, if_pos (continues_connect ..)]
  | _ =>
    rw [depth_eq]
    simp only [kind, nestingDepth, List.map_map]
    rfl

end Term

/-! ## The depth that nodes keep -/

namespace Builder

/-- Every node keeps the depth of its term, which is within the limit. -/
def Graded (builder : Builder) : Prop :=
  ∀ (id : Nat) (node : Node), builder.nodes[id]? = some node →
    node.grown = node.grown.term.grown ∧ node.grown.depth ≤ maxDepth

/-- **A request that succeeds keeps the depths right.** -/
theorem Graded.node {builder builder' : Builder} {kind : NodeKind} {children : List Nat} {id : Nat}
    (graded : builder.Graded) (added : Builder.node kind children builder = .ok id builder') :
    builder'.Graded := by
  intro at' node' found
  rcases cases_of_added added found with ⟨rfl, _⟩ | ⟨_, node, before, _, _, same, _⟩
  · obtain ⟨grown, foundNew, operands, free, grew⟩ := getElem?_added added
    cases found.symm.trans foundNew
    have terms : (operands.map Grown.term).map Term.grown = operands := by
      rw [List.map_map]
      refine (List.map_congr_left fun operand member => ?_).trans (List.map_id operands)
      obtain ⟨position, inside, rfl⟩ := List.getElem_of_mem member
      obtain ⟨child, before, _, carried⟩ := free.get (free.length_eq ▸ inside) inside
      exact (carried ▸ graded _ child before).1.symm
    have made := (Grown.node_eq_ok_iff.1 grew).1
    rw [← terms] at grew
    obtain ⟨same, shallow⟩ := (Grown.node_eq_ok_iff_grown made).1 grew
    exact ⟨same, same ▸ shallow⟩
  · rw [same]
    exact graded at' node before

/-- **After any requests every node keeps the depth of its term.** -/
theorem graded_after (requests : List Request) : (after requests).Graded :=
  after_induction (fun _ _ found => nomatch found) Graded.node requests

end Builder

/-! ## Rules of checking -/

/-- The kind of a node from those of the nodes it is checked on; none if their number does not fit.
A connective is checked on the operands of its run, however many they are. -/
def NodeKind.checked? (schema : Schema) : NodeKind → List Checked → Option Checked
  | .property name, [] => some (.ok (schema name))
  | .literal content, [] => some (.ok content.value.kind)
  | .connect operator, operands => some (checkBooleans operator.name operands)
  | .not, [operand] => some (checkBooleans NodeKind.not.name [operand])
  | .isNull, [operand] => some (checkTest [operand])
  | .between, [value, low, high] => some (checkBetween [value, low, high])
  | .inList, value :: items => some (checkTest (value :: items))
  | .like, [subject, pattern] => some (checkLike subject pattern)
  | .compare _, [left, right] => some (checkTest [left, right])
  | .any, operands => some (checkBooleans NodeKind.any.name operands)
  | .arithmetic operator, [left, right] => some (checkArithmetic operator left right)
  | .negate, [operand] => some (checkNegation operand)
  | _, _ => none

/-- What a term is checked to be is what its node is checked to be. -/
theorem Term.checked?_flatOperands (schema : Schema) (term : Term) :
    term.kind.checked? schema (term.flatOperands.map fun operand => operand.check schema) =
      some (term.check schema) := by
  cases term with
  | connect operator left right =>
    rw [check_connect]
    rfl
  | _ =>
    rw [check]
    rfl

/-! ## Recursion with so many levels -/

namespace Expression

/-- What a rule for nodes gives for a node, if going down to the nodes it is evaluated on takes no
more than so many levels. -/
def workOut {α : Type} (expression : Expression) (rule : NodeKind → List α → Option α) :
    (levels id : Nat) → Option α
  | 0, _ => none
  | levels + 1, id =>
    expression.nodes[id]?.bind fun node =>
      ((expression.flatOperands id node).mapM (expression.workOut rule levels)).bind
        (rule node.kind)

end Expression

/-- A list cannot be worked through if one of its members cannot. -/
theorem mapM_eq_none {α β : Type} {f : α → Option β} {members : List α}
    (one : ∃ member ∈ members, f member = none) : members.mapM f = none := by
  induction members with
  | nil => simp at one
  | cons first rest ih =>
    obtain ⟨member, inside, stuck⟩ := one
    rw [List.mapM_cons]
    rcases List.mem_cons.1 inside with rfl | later
    · rw [stuck]
      rfl
    · rw [ih ⟨member, later, stuck⟩]
      cases f first <;> rfl

namespace Expression

/-- **A node is worked out exactly if its term is not deeper than there are levels.** -/
theorem workOut_eq {α : Type} {expression : Expression}
    (forest : (Builder.mk expression.nodes).Forest) {rule : NodeKind → List α → Option α}
    {value : Term → α}
    (gives : ∀ term, rule term.kind (term.flatOperands.map value) = some (value term))
    {id : Nat} {term : Term} (carries : (Builder.mk expression.nodes).Carries id term)
    (levels : Nat) :
    expression.workOut rule levels id =
      if term.depth ≤ levels then some (value term) else none := by
  induction levels generalizing id term with
  | zero =>
    have deep := term.depth_eq_flatOperands
    rw [if_neg (by omega)]
    rfl
  | succ levels ih =>
    obtain ⟨node, found, sameKind, _⟩ := forest.node_of_carries carries
    have operands := forall₂_flatOperands forest found carries
    have each := operands.imp fun operand term carries => ih carries
    rw [workOut, found, Option.bind_some]
    by_cases shallow : ∀ operand ∈ term.flatOperands, operand.depth ≤ levels
    · have within : term.depth ≤ levels + 1 := by
        have bounded := deepest_le_iff.2 (List.forall_mem_map.2 shallow)
        have deep := term.depth_eq_flatOperands
        omega
      have worked : (expression.flatOperands id node).mapM (expression.workOut rule levels) =
          some (term.flatOperands.map value) := by
        have both := ((List.forall₂_and_left _ _).2 ⟨shallow, each.flip⟩).flip
        refine mapM_eq_some (List.forall₂_map_right_iff.2 (both.imp ?_))
        rintro operand term ⟨bounded, same⟩
        rw [same, if_pos bounded]
      rw [worked, Option.bind_some, sameKind, gives, if_pos within]
    · have beyond : ¬ term.depth ≤ levels + 1 := by
        intro within
        have deep := term.depth_eq_flatOperands
        exact shallow (List.forall_mem_map.1 (deepest_le_iff.1 (by omega)))
      have stuck :
          (expression.flatOperands id node).mapM (expression.workOut rule levels) = none := by
        apply mapM_eq_none
        simp only [not_forall] at shallow
        obtain ⟨operand, member, deep⟩ := shallow
        obtain ⟨position, inside, rfl⟩ := List.getElem_of_mem member
        have inNodes : position < (expression.flatOperands id node).length :=
          operands.length_eq ▸ inside
        refine ⟨_, List.getElem_mem inNodes, ?_⟩
        exact (each.get inNodes inside).trans (if_neg deep)
      rw [stuck, if_neg beyond]
      rfl

/-- The nodes of a finished expression keep the depths of their terms. -/
theorem graded_of_build {requests : List Builder.Request} {root : Nat} {expression : Expression}
    (built : (Builder.after requests).build root = .ok expression) :
    (Builder.mk expression.nodes).Graded := by
  obtain ⟨_, same, _⟩ := Builder.build_eq_ok_iff.1 built
  rw [same]
  exact Builder.graded_after requests

section Finished

variable {requests : List Builder.Request} {root : Nat} {expression : Expression}
  (built : (Builder.after requests).build root = .ok expression)
  {α : Type} {rule : NodeKind → List α → Option α} {value : Term → α}
  (gives : ∀ term, rule term.kind (term.flatOperands.map value) = some (value term))
include built gives

/-- A node of a finished expression needs as many levels as it keeps. -/
theorem workOut_node {id : Nat} {node : Node} (found : expression.nodes[id]? = some node)
    (levels : Nat) :
    expression.workOut rule levels id =
      if node.grown.depth ≤ levels then some (value node.grown.term) else none := by
  have carries : (Builder.mk expression.nodes).Carries id node.grown.term :=
    Option.map_eq_some_iff.2 ⟨node, found, rfl⟩
  have kept : node.grown.depth = node.grown.term.depth :=
    congrArg Grown.depth (graded_of_build built id node found).1
  rw [workOut_eq (forest_of_build built) gives carries, kept]

/-- The whole of a finished expression needs no more levels than the limit. -/
theorem workOut_root : expression.workOut rule maxDepth expression.root =
    some (value expression.term) := by
  have found := Array.getElem?_eq_getElem expression.root_lt
  rw [workOut_node built gives found, if_pos (graded_of_build built _ _ found).2]
  rfl

end Finished

end Expression

/-! ## Requests that are too deep -/

namespace Builder

theorem operands_ne_tooDeep (builder : Builder) (children earlier : List Nat) :
    builder.operands children earlier ≠ .error .tooDeep := by
  induction children generalizing earlier with
  | nil =>
    intro failed
    cases failed
  | cons id rest ih =>
    intro failed
    rw [Builder.operands] at failed
    cases found : builder.nodes[id]? with
    | none =>
      rw [found] at failed
      cases failed
    | some node =>
      rw [found] at failed
      dsimp only at failed
      split_ifs at failed
      · cases failed
      · cases inside : builder.operands rest (id :: earlier) with
        | error error =>
          rw [inside] at failed
          cases failed
          exact ih (id :: earlier) inside
        | ok operands =>
          rw [inside] at failed
          cases failed

/-- A request is refused as too deep only for operands over which the node is deeper than the
limit. -/
theorem exists_operands_of_tooDeep {builder : Builder} {kind : NodeKind} {children : List Nat}
    (refused : (builder.step kind children).2 = .error .tooDeep) :
    ∃ operands, List.Forall₂ builder.Free children operands ∧
      maxDepth < nestingDepth kind operands := by
  unfold Builder.step at refused
  cases result : Builder.node kind children builder with
  | ok id builder' =>
    rw [result] at refused
    cases refused
  | error error builder' =>
    rw [result] at refused
    obtain rfl := Except.error.inj refused
    obtain ⟨-, wrong | ⟨-, wrong | ⟨operands, found, wrong⟩⟩⟩ := node_eq_error_iff.1 result
    · unfold checkCount at wrong
      split at wrong <;> cases wrong
    · exact absurd wrong (builder.operands_ne_tooDeep children [])
    · refine ⟨operands, (operands_eq_ok_iff.1 found).2.2, ?_⟩
      by_contra shallow
      simp only [Grown.node, if_neg shallow] at wrong
      cases made : kind.term? (operands.map Grown.term) <;> simp [made] at wrong

/-- The nodes that a node is evaluated on: the operands of its run for a connective, and else its
children. -/
def flatOperands (builder : Builder) (id : Nat) (node : Node) : List Nat :=
  match node.kind with
  | .connect operator => Expression.runBefore builder.nodes operator id []
  | _ => node.children

/-- A node without children is evaluated on no nodes. -/
theorem Forest.flatOperands_leaf {builder : Builder} (forest : builder.Forest) {id : Nat}
    {node : Node} (found : builder.nodes[id]? = some node) (leaf : node.children = []) :
    builder.flatOperands id node = [] := by
  have fits := forest.arity found
  rw [leaf] at fits
  unfold flatOperands
  cases kind : node.kind with
  | connect operator =>
    rw [kind] at fits
    cases fits
  | _ => exact leaf

/-- They are the same before and after an expression is finished. -/
theorem flatOperands_eq {expression : Expression} {id : Nat} {node : Node}
    (found : expression.nodes[id]? = some node) :
    (Builder.mk expression.nodes).flatOperands id node = expression.flatOperands id node := by
  obtain ⟨kind, children, parent, grown⟩ := node
  cases kind with
  | connect operator =>
    simp only [flatOperands, Expression.flatOperands, Expression.chainOperands, found]
  | _ => rfl

/-- The depth that a node keeps, if it is there. -/
def depthAt (builder : Builder) (id : Nat) : Option Nat :=
  builder.nodes[id]?.map fun node => node.grown.depth

theorem Graded.depthAt {builder : Builder} (graded : builder.Graded) {id : Nat} {term : Term}
    (carries : builder.Carries id term) : builder.depthAt id = some term.depth := by
  obtain ⟨node, found, rfl⟩ := Option.map_eq_some_iff.1 carries
  exact Option.map_eq_some_iff.2 ⟨node, found, congrArg Grown.depth (graded id node found).1⟩

/-- **A node keeps one level more than the deepest of the nodes it is evaluated on.** -/
theorem Forest.depth_eq {builder : Builder} (forest : builder.Forest) (graded : builder.Graded)
    {id : Nat} {node : Node} (found : builder.nodes[id]? = some node) :
    ∃ depths, List.Forall₂ (fun operand depth => builder.depthAt operand = some depth)
        (builder.flatOperands id node) depths ∧
      node.grown.depth = 1 + deepest depths := by
  have inside := (Array.getElem?_eq_some_iff.1 found).1
  have carries : builder.Carries id node.grown.term := Option.map_eq_some_iff.2 ⟨node, found, rfl⟩
  have operands := @Expression.forall₂_flatOperands ⟨builder.nodes, id, inside⟩ forest _ _ _
    found carries
  rw [← flatOperands_eq found] at operands
  refine ⟨node.grown.term.flatOperands.map Term.depth, ?_, ?_⟩
  · exact List.forall₂_map_right_iff.2 (operands.imp fun _ _ => graded.depthAt)
  · rw [(graded id node found).1]
    exact node.grown.term.depth_eq_flatOperands

section Extending

variable {builder : Builder} (forest : builder.Forest) (graded : builder.Graded)
  {operator : Connective} {left right : Nat} {run operand : Node}
  (foundLeft : builder.nodes[left]? = some run) (sameKind : run.kind = .connect operator)
  (foundRight : builder.nodes[right]? = some operand) (shallow : operand.grown.depth < maxDepth)

include forest graded foundLeft sameKind shallow in
/-- A run that is extended does not get deeper, or just one level deeper than the new operand. -/
theorem nestingDepth_run :
    nestingDepth (.connect operator) [run.grown, operand.grown] ≤ maxDepth := by
  have goesOn : run.grown.term.continues operator = true := by
    obtain ⟨node, found, same, _⟩ := forest.node_of_carries (Option.map_eq_some_iff.2
      ⟨run, foundLeft, rfl⟩ : builder.Carries left run.grown.term)
    cases foundLeft.symm.trans found
    rw [sameKind] at same
    cases term : run.grown.term <;> simp_all [Term.kind, Term.continues]
  have bounded := (graded left run foundLeft).2
  simp only [nestingDepth, if_pos goesOn]
  omega

include forest graded foundLeft sameKind foundRight shallow

/-- **A run can be extended by an operand that leaves one level.** -/
theorem step_run_ne_tooDeep :
    (builder.step (.connect operator) [left, right]).2 ≠ .error .tooDeep := by
  intro refused
  obtain ⟨operands, free, deep⟩ := exists_operands_of_tooDeep refused
  obtain ⟨first, _, isLeft, second, rfl⟩ := List.forall₂_cons_left_iff.1 free
  obtain ⟨second, _, isRight, none, rfl⟩ := List.forall₂_cons_left_iff.1 second
  obtain rfl := List.forall₂_nil_left_iff.1 none
  obtain ⟨_, rfl⟩ := (free_iff foundLeft).1 isLeft
  obtain ⟨_, rfl⟩ := (free_iff foundRight).1 isRight
  exact Nat.not_le.2 deep (nestingDepth_run forest graded foundLeft sameKind shallow)

/-- If the run and the operand are different nodes without a parent, nothing stands in the way. -/
theorem step_run_eq_ok (detachedRun : run.parent = none) (detached : operand.parent = none)
    (different : left ≠ right) :
    (builder.step (.connect operator) [left, right]).2 = .ok builder.nodes.size := by
  have free : List.Forall₂ builder.Free [left, right] [run.grown, operand.grown] :=
    .cons ((free_iff foundLeft).2 ⟨detachedRun, rfl⟩)
      (.cons ((free_iff foundRight).2 ⟨detached, rfl⟩) .nil)
  have grew : Grown.node (.connect operator) [run.grown, operand.grown] =
      .ok ⟨.connect operator run.grown.term operand.grown.term,
        nestingDepth (.connect operator) [run.grown, operand.grown]⟩ :=
    Grown.node_eq_ok_iff.2 ⟨rfl, rfl, nestingDepth_run forest graded foundLeft sameKind shallow⟩
  have added := node_eq_ok_iff.2 ⟨rfl, by simpa using different, _, _, free, grew, rfl, rfl⟩
  rw [Builder.step, added]

end Extending

/-- **Depth is the number of levels that recursion takes, and never more than 128.**  Whatever is
requested, a node without operands has depth one, and any other node one more than the deepest of
the nodes that it is evaluated on.  A finished expression is evaluated and checked from each node
with exactly as many levels as the depth of the node, so 128 levels are enough for the whole of it.
A run takes any operand that is less deep than 128 without becoming too deep, and the request fails
only if one of the two has a parent or they are the same. -/
theorem levels_of_requests [Engine] (requests : List Request) :
    (∀ (id : Nat) (node : Node), (after requests).nodes[id]? = some node →
      (node.children = [] → node.grown.depth = 1) ∧
      (∃ depths, List.Forall₂ (fun operand depth => (after requests).depthAt operand = some depth)
          ((after requests).flatOperands id node) depths ∧
        node.grown.depth = 1 + deepest depths) ∧
      node.grown.depth ≤ 128) ∧
    (∀ root expression, (after requests).build root = .ok expression →
      (∀ (id : Nat) (node : Node), expression.nodes[id]? = some node → ∀ levels,
        (∀ context, expression.workOut (NodeKind.outcome? context) levels id =
          if node.grown.depth ≤ levels then some (node.grown.term.evaluate context) else none) ∧
        ∀ schema, expression.workOut (NodeKind.checked? schema) levels id =
          if node.grown.depth ≤ levels then some (node.grown.term.check schema) else none) ∧
      (∀ context, expression.workOut (NodeKind.outcome? context) 128 expression.root =
        some (expression.term.evaluate context)) ∧
      ∀ schema, expression.workOut (NodeKind.checked? schema) 128 expression.root =
        some (expression.term.check schema)) ∧
    ∀ (operator : Connective) (left right : Nat) (run operand : Node),
      (after requests).nodes[left]? = some run → run.kind = .connect operator →
      (after requests).nodes[right]? = some operand → operand.grown.depth ≤ 127 →
      ((after requests).step (.connect operator) [left, right]).2 ≠ .error .tooDeep ∧
      (run.parent = none → operand.parent = none → left ≠ right →
        ((after requests).step (.connect operator) [left, right]).2 =
          .ok (after requests).nodes.size) := by
  have forest := forest_after requests
  have graded := graded_after requests
  refine ⟨fun id node found => ⟨fun leaf => ?_, forest.depth_eq graded found,
    (graded id node found).2⟩, fun root expression built => ?_, ?_⟩
  · obtain ⟨depths, operands, same⟩ := forest.depth_eq graded found
    rw [forest.flatOperands_leaf found leaf] at operands
    obtain rfl := List.forall₂_nil_left_iff.1 operands
    exact same
  · refine ⟨fun id node found levels => ⟨fun context => ?_, fun schema => ?_⟩,
      fun context => ?_, fun schema => ?_⟩
    · exact Expression.workOut_node built (Term.outcome?_flatOperands context) found levels
    · exact Expression.workOut_node built (Term.checked?_flatOperands schema) found levels
    · exact Expression.workOut_root built (Term.outcome?_flatOperands context)
    · exact Expression.workOut_root built (Term.checked?_flatOperands schema)
  · intro operator left right run operand foundLeft sameKind foundRight shallow
    have leaves : operand.grown.depth < maxDepth := Nat.lt_succ_of_le shallow
    exact ⟨step_run_ne_tooDeep forest graded foundLeft sameKind foundRight leaves,
      step_run_eq_ok forest graded foundLeft sameKind foundRight leaves⟩

end Builder

end Sift
