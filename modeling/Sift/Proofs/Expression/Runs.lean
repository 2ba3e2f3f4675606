import Sift.Pattern.Matching
import Sift.Proofs.Expression.Connectives
import Sift.Proofs.Expression.Insertion

/-!
# Runs are only a way to evaluate

The evaluator folds the operands of a run one after the other and never evaluates the nodes on the
spine between them.  A plain evaluator knows nothing of runs: it goes into both sides of every
connective, turns each into a truth value and combines the two (`Term.plainValue`).  The two agree
on every term, in values and in failures (`Term.evaluate_eq_plainValue`).

The same holds where runs are collected on the nodes of a finished expression.  The operands that
`Expression.chainOperands` lists for a node carry the operands of the run of its term, in order
(`Expression.forall₂_flatOperands`), so folding them from node to node gives what the plain
evaluator gives.
-/

set_option autoImplicit false

namespace Sift

/-! ## Evaluation without runs -/

/-- A connective on its two sides: the left one is turned into a truth value, then the right one,
and the two are combined. -/
def connectOutcome (operator : Connective) (left right : Outcome) : Outcome :=
  (Outcome.truth operator.name left).bind fun known =>
    (Outcome.truth operator.name right).map fun truth =>
      Value.ofTruth (operator.combine known truth)

/-- The value of a term in a context, by recursion into both sides of every connective. -/
def Term.plainValue [Engine] (context : Context) : Term → Outcome
  | .property name => context name
  | .literal content => .ok content.value
  | .connect operator left right =>
    connectOutcome operator (left.plainValue context) (right.plainValue context)
  | .not operand =>
    (Outcome.truth "NOT" (operand.plainValue context)).map fun truth => Value.ofTruth truth.not
  | .isNull operand => (operand.plainValue context).map fun value => .boolean value.isNull
  | .between value low high =>
    betweenOutcome (value.plainValue context) (low.plainValue context) (high.plainValue context)
  | .inList value items =>
    inOutcome (value.plainValue context) (items.map fun item => item.plainValue context)
  | .like subject pattern => likeOutcome (subject.plainValue context) (pattern.plainValue context)
  | .compare operator left right =>
    compareOutcome operator (left.plainValue context) (right.plainValue context)
  | .any operands =>
    (anyTruth none (operands.map fun operand => operand.plainValue context)).map Value.ofTruth
  | .arithmetic operator left right =>
    arithmeticOutcome operator (left.plainValue context) (right.plainValue context)
  | .negate operand => (operand.plainValue context).bind negated

/-- **Evaluation by runs is plain evaluation.** -/
theorem Term.evaluate_eq_plainValue [Engine] (context : Context) (term : Term) :
    term.evaluate context = term.plainValue context := by
  induction term with
  | property name => rw [evaluate, plainValue]
  | literal content => rw [evaluate, plainValue]
  | connect operator left right ihLeft ihRight =>
    rw [evaluate_connect_eq, plainValue, ihLeft, ihRight, connectOutcome]
  | not operand ih => rw [evaluate, plainValue, ih]
  | isNull operand ih => rw [evaluate, plainValue, ih]
  | between value low high ih ihLow ihHigh => rw [evaluate, plainValue, ih, ihLow, ihHigh]
  | inList value items ih ihItems =>
    rw [evaluate, plainValue, ih, List.map_congr_left ihItems]
  | like subject pattern ih ihPattern => rw [evaluate, plainValue, ih, ihPattern]
  | compare operator left right ihLeft ihRight => rw [evaluate, plainValue, ihLeft, ihRight]
  | any operands ih => rw [evaluate, plainValue, List.map_congr_left ih]
  | arithmetic operator left right ihLeft ihRight => rw [evaluate, plainValue, ihLeft, ihRight]
  | negate operand ih => rw [evaluate, plainValue, ih]

/-! ## Evaluation on the nodes -/

/-- The outcome of a node from those of the nodes it is evaluated on; none if their number does not
fit the kind.  A connective is evaluated on the operands of its run, however many they are. -/
def NodeKind.outcome? [Engine] (context : Context) : NodeKind → List Outcome → Option Outcome
  | .property name, [] => some (context name)
  | .literal content, [] => some (.ok content.value)
  | .connect operator, outcomes => some ((runTruth operator outcomes).map Value.ofTruth)
  | .not, [operand] =>
    some ((Outcome.truth "NOT" operand).map fun truth => Value.ofTruth truth.not)
  | .isNull, [operand] => some (operand.map fun value => .boolean value.isNull)
  | .between, [value, low, high] => some (betweenOutcome value low high)
  | .inList, value :: items => some (inOutcome value items)
  | .like, [subject, pattern] => some (likeOutcome subject pattern)
  | .compare operator, [left, right] => some (compareOutcome operator left right)
  | .any, outcomes => some ((anyTruth none outcomes).map Value.ofTruth)
  | .arithmetic operator, [left, right] => some (arithmeticOutcome operator left right)
  | .negate, [operand] => some (operand.bind negated)
  | _, _ => none

/-- The terms a term is evaluated on. -/
def Term.flatOperands : Term → List Term
  | connect operator left right => runOf operator left right
  | term => term.operands

/-- What a term evaluates to is the outcome of its node. -/
theorem Term.outcome?_flatOperands [Engine] (context : Context) (term : Term) :
    term.kind.outcome? context (term.flatOperands.map fun operand => operand.evaluate context) =
      some (term.evaluate context) := by
  cases term with
  | connect operator left right =>
    rw [evaluate_connect]
    rfl
  | _ =>
    rw [evaluate]
    rfl

namespace Expression

/-- The nodes that a node is evaluated on. -/
def flatOperands (expression : Expression) (id : Nat) (node : Node) : List Nat :=
  match node.kind with
  | .connect _ => expression.chainOperands id
  | _ => node.children

/-- The outcome of a node, from node to node.  None if a node is not there, does not stand before
the one that needs it, or has not as many operands as it needs. -/
def evaluateAt [Engine] (expression : Expression) (context : Context) (id : Nat) :
    Option Outcome :=
  match expression.nodes[id]? with
  | none => none
  | some node =>
    let outcomes := (expression.flatOperands id node).mapM fun operand =>
      if operand < id then expression.evaluateAt context operand else none
    outcomes.bind fun outcomes => node.kind.outcome? context outcomes
termination_by id

end Expression

/-- A list is worked through member by member. -/
theorem mapM_eq_some {α β : Type} {f : α → Option β} {members : List α} {results : List β}
    (each : List.Forall₂ (fun member result => f member = some result) members results) :
    members.mapM f = some results := by
  induction each with
  | nil => rfl
  | cons first _ ih => simp [List.mapM_cons, first, ih]

/-! ## Runs of nodes -/

namespace Builder.Forest

variable {builder : Builder} (forest : builder.Forest)
include forest

/-- The run that ends in a node has the operands of the run that ends in its term. -/
theorem forall₂_runBefore {operator : Connective} {term : Term} {id : Nat} {later : List Nat}
    {terms : List Term} (carries : builder.Carries id term)
    (rest : List.Forall₂ builder.Carries later terms) :
    List.Forall₂ builder.Carries (Expression.runBefore builder.nodes operator id later)
      (term.runBefore operator terms) := by
  induction term generalizing id later terms with
  | connect operator' left right ihLeft _ =>
    obtain ⟨⟨kind, children, parent, grown⟩, found, rfl, operands⟩ := forest.node_of_carries carries
    obtain ⟨first, _, carriesLeft, second, rfl⟩ := List.forall₂_cons_right_iff.1 operands
    obtain ⟨second, _, carriesRight, none, rfl⟩ := List.forall₂_cons_right_iff.1 second
    obtain rfl := List.forall₂_nil_right_iff.1 none
    have before : first < id := forest.child_lt found (List.mem_cons_self ..)
    rw [Expression.runBefore, found]
    by_cases same : operator' = operator
    · simp only [Term.kind, Term.runBefore, same, before, and_self, if_true]
      exact ihLeft carriesLeft (.cons carriesRight rest)
    · simp only [Term.kind, Term.runBefore, same, false_and, if_false]
      exact .cons carries rest
  | _ =>
    obtain ⟨⟨kind, children, parent, grown⟩, found, rfl, _⟩ := forest.node_of_carries carries
    rw [Expression.runBefore, found]
    exact .cons carries rest

/-- The operands of a run stand not behind the node in which it ends. -/
theorem le_of_mem_runBefore {operator : Connective} {id operand : Nat} {later : List Nat}
    (member : operand ∈ Expression.runBefore builder.nodes operator id later) :
    operand ≤ id ∨ operand ∈ later := by
  fun_induction Expression.runBefore builder.nodes operator id later with
  | case1 id later operator' left right parent grown found same ih =>
    have before : right < id := forest.child_lt found (by simp)
    rcases ih member with inLeft | inRight
    · exact Or.inl (Nat.le_trans inLeft (Nat.le_of_lt same.2))
    · rcases List.mem_cons.1 inRight with rfl | inLater
      · exact Or.inl (Nat.le_of_lt before)
      · exact Or.inr inLater
  | case2 id later =>
    exact (List.mem_cons.1 member).imp Nat.le_of_eq fun inLater => inLater
  | case3 id later => exact (List.mem_cons.1 member).imp Nat.le_of_eq fun inLater => inLater

end Builder.Forest

/-! ## Finished expressions -/

namespace Expression

/-- The nodes of a finished expression are those of a builder that requests lead to. -/
theorem forest_of_build {requests : List Builder.Request} {root : Nat} {expression : Expression}
    (built : (Builder.after requests).build root = .ok expression) :
    (Builder.mk expression.nodes).Forest := by
  obtain ⟨_, same, _⟩ := Builder.build_eq_ok_iff.1 built
  rw [same]
  exact Builder.forest_after requests

section Forested

variable {expression : Expression} (forest : (Builder.mk expression.nodes).Forest)
include forest

/-- **A node is evaluated on the nodes that carry the terms that its term is evaluated on.** -/
theorem forall₂_flatOperands {id : Nat} {node : Node} {term : Term}
    (found : expression.nodes[id]? = some node)
    (carries : (Builder.mk expression.nodes).Carries id term) :
    List.Forall₂ (Builder.mk expression.nodes).Carries (expression.flatOperands id node)
      term.flatOperands := by
  obtain ⟨node', found', sameKind, operands⟩ := forest.node_of_carries carries
  cases found.symm.trans found'
  unfold flatOperands
  rw [sameKind]
  cases term with
  | connect operator left right =>
    obtain ⟨kind, children, parent, grown⟩ := node
    obtain rfl : kind = .connect operator := sameKind
    have run : List.Forall₂ _ (runBefore expression.nodes operator id [])
        ((Term.connect operator left right).runBefore operator []) :=
      forest.forall₂_runBefore carries .nil
    simp only [Term.runBefore, if_true] at run
    simp only [Term.kind, chainOperands, found]
    exact run
  | _ => exact operands

/-- The nodes a node is evaluated on stand before it. -/
theorem lt_of_mem_flatOperands {id operand : Nat} {node : Node}
    (found : expression.nodes[id]? = some node)
    (member : operand ∈ expression.flatOperands id node) : operand < id := by
  obtain ⟨kind, children, parent, grown⟩ := node
  cases kind with
  | connect operator =>
    obtain ⟨left, right, rfl, beforeLeft, beforeRight⟩ := forest.exists_left_right found rfl
    simp only [flatOperands, chainOperands, found] at member
    rw [runBefore, found] at member
    simp only [beforeLeft, and_self, if_true] at member
    rcases forest.le_of_mem_runBefore member with inLeft | isRight
    · exact Nat.lt_of_le_of_lt inLeft beforeLeft
    · rwa [List.mem_singleton.1 isRight]
  | _ => exact forest.child_lt found member

/-- **From node to node a node evaluates as its term does.** -/
theorem evaluateAt_eq [Engine] (context : Context) {id : Nat} {term : Term}
    (carries : (Builder.mk expression.nodes).Carries id term) :
    expression.evaluateAt context id = some (term.evaluate context) := by
  induction id using Nat.strong_induction_on generalizing term with
  | h id ih =>
    obtain ⟨node, found, sameKind, _⟩ := forest.node_of_carries carries
    have operands := (List.forall₂_and_left _ _).2
      ⟨fun _ member => lt_of_mem_flatOperands forest found member,
        forall₂_flatOperands forest found carries⟩
    have outcomes : (expression.flatOperands id node).mapM
        (fun operand => if operand < id then expression.evaluateAt context operand else none) =
          some (term.flatOperands.map fun operand => operand.evaluate context) := by
      refine mapM_eq_some (List.forall₂_map_right_iff.2 (operands.imp ?_))
      rintro operand term ⟨before, carries⟩
      rw [if_pos before, ih operand before carries]
    rw [evaluateAt, found]
    show Option.bind (List.mapM _ _) _ = _
    rw [outcomes, Option.bind_some, sameKind, Term.outcome?_flatOperands]

end Forested

/-- **A finished expression evaluates by runs as it does without.**  The value or the failure of
its term is that of the plain evaluator.  So is the outcome of each of its nodes, whose term the
nodes below it show, where every connective is evaluated on the nodes that are listed as the
operands of its run. -/
theorem evaluate_eq_recursion [Engine] {requests : List Builder.Request} {root : Nat}
    {expression : Expression} (built : (Builder.after requests).build root = .ok expression)
    (context : Context) :
    expression.term.evaluate context = expression.term.plainValue context ∧
    ∀ (id : Nat) (node : Node), expression.nodes[id]? = some node →
      Shows expression.nodes id node.grown.term ∧
        expression.evaluateAt context id = some (node.grown.term.plainValue context) := by
  refine ⟨Term.evaluate_eq_plainValue context expression.term, fun id node found => ?_⟩
  have forest := forest_of_build built
  have carries : (Builder.mk expression.nodes).Carries id node.grown.term :=
    Option.map_eq_some_iff.2 ⟨node, found, rfl⟩
  refine ⟨forest.shows carries, ?_⟩
  rw [evaluateAt_eq forest context carries, Term.evaluate_eq_plainValue]

/-- In a run whose second operand is no truth value and whose third has no value at all, the second
one decides the failure, although the first one is true. -/
theorem evaluate_eq_recursion_first_failure :
    let context : Context := fun name =>
      if name = "a" then .ok (.boolean true)
      else if name = "b" then .ok (.string "b")
      else .error (.unbound name)
    ∃ expression,
      (Builder.after [(.property "a", []), (.property "b", []), (.connect .or, [0, 1]),
        (.property "c", []), (.connect .or, [2, 3])]).build 4 = .ok expression ∧
      @Term.evaluate Engine.direct context expression.term =
        .error (.operandKinds "OR" (some .string) none) ∧
      @evaluateAt Engine.direct expression context 4 =
        some (.error (.operandKinds "OR" (some .string) none)) := by
  let requests : List Builder.Request :=
    [(.property "a", []), (.property "b", []), (.connect .or, [0, 1]), (.property "c", []),
      (.connect .or, [2, 3])]
  intro context
  obtain ⟨expression, built, same⟩ : ∃ expression, (Builder.after requests).build 4 =
      .ok expression ∧ expression.term =
        .connect .or (.connect .or (.property "a") (.property "b")) (.property "c") := by
    refine ⟨_, rfl, ?_⟩
    rfl
  obtain ⟨_, sameNodes, _⟩ := Builder.build_eq_ok_iff.1 built
  obtain ⟨node, found, carried⟩ := Option.map_eq_some_iff.1 (Builder.termAt_root built)
  rw [← sameNodes] at found
  obtain ⟨atTerm, atNodes⟩ :=
    @evaluate_eq_recursion Engine.direct requests 4 expression built context
  obtain ⟨_, atRoot⟩ := atNodes 4 node found
  have failed : @Term.plainValue Engine.direct context expression.term =
      .error (.operandKinds "OR" (some .string) none) := by
    rw [same]
    simp only [Term.plainValue]
    rfl
  rw [carried, failed] at atRoot
  exact ⟨expression, built, atTerm.trans failed, atRoot⟩

end Expression

end Sift
