import Sift.Proofs.Expression.Acceptance
import Sift.Proofs.Expression.Dumping
import Sift.Proofs.Expression.Levels

/-!
# Every lookup finds something

What works on the nodes of a finished expression looks for nodes by their position, for the children
of a node by their place among them, and for values and kinds by their place in lists that were put
together from the children.  Nothing asks whether it is there.  Here the walks over the nodes are
written down with every lookup in its place and without any bound on how long they take
(`Nodes.evaluateNode`, `Nodes.checkNode`, `Nodes.chainOperands`, and `Nodes.writeFrom` for the
dump).  Such a walk has no result if a lookup finds nothing, and none if it never ends.

From every node of a finished expression the walks have results, and these are what the terms
evaluate to, what they are checked to be, the operands of runs, and the dump
(`Expression.walks_settle`).  So no lookup ever fails, and every walk comes to an end.  The argument
is the same for both walks that recurse: a node settles if its operands do
(`Nodes.evaluateNode_eq`, `Nodes.checkNode_eq`), and in a forest these stand before it.
-/

set_option autoImplicit false

namespace Sift

/-- A walk over nodes, which may fail.  It has no result if it looks for something that is not
there, or if it never ends. -/
abbrev Walk (ε α : Type) := ExceptT ε Option α

namespace Walk

/-- What a walk finds where it looks. -/
def look {ε α : Type} (found : Option α) : Walk ε α :=
  ExceptT.mk (found.map .ok)

/-- What is computed without looking for anything. -/
def settle {ε α : Type} (result : Except ε α) : Walk ε α :=
  ExceptT.mk (some result)

/-! ## Walks that settle -/

section Settling

variable {ε α β : Type}

@[simp] theorem look_some (found : α) : (look (some found) : Walk ε α) = pure found := rfl

@[simp] theorem settle_ok_bind (value : α) (next : α → Walk ε β) :
    (settle (.ok value) >>= next) = next value := rfl

theorem settle_bind (result : Except ε α) (next : α → Except ε β) :
    (settle result >>= fun value => settle (next value)) = settle (result.bind next) := by
  cases result <;> rfl

theorem settle_map (result : Except ε α) (f : α → β) :
    (settle result >>= fun value => pure (f value)) = settle (result.map f) := by
  cases result <;> rfl

theorem settle_truth (operator : String) (outcome : Outcome)
    (next : Truth → Walk EvaluationError α) :
    (settle outcome >>= fun value => settle (truthOf operator value) >>= next) =
      settle (Outcome.truth operator outcome) >>= next := by
  cases outcome <;> rfl

/-- A walk settles at each of some nodes with results. -/
abbrev SettlesAt (walk : Nat → Walk ε α) (ids : List Nat) (results : List (Except ε α)) : Prop :=
  List.Forall₂ (fun id result => walk id = settle result) ids results

end Settling

end Walk

namespace Nodes

open Walk

/-! ## Operands -/

/-- Go down the left children of a run and gather the right ones; the order is turned around in the
end. -/
def gather (nodes : Nodes) (operator : Connective) (current : Nat) (operands : List Nat) :
    Option (List Nat) := do
  let node ← nodes[current]?
  match node.kind with
  | .connect found =>
    if found = operator then
      let right ← node.children[1]?
      let left ← node.children[0]?
      nodes |>.gather operator left (operands ++ [right])
    else some (operands ++ [current]).reverse
  | _ => some (operands ++ [current]).reverse
partial_fixpoint

/-- The operands of the run rooted at a node; a node that is no connective is its own only one. -/
def chainOperands (nodes : Nodes) (id : Nat) : Option (List Nat) := do
  let node ← nodes[id]?
  match node.kind with
  | .connect operator => nodes.gather operator id []
  | _ => some [id]

/-- The nodes that a node is evaluated and checked on. -/
def operandsOf (nodes : Nodes) (id : Nat) (node : Node) : Option (List Nat) :=
  match node.kind with
  | .connect _ => nodes.chainOperands id
  | _ => some node.children

/-! ## Checking -/

/-- The kind of a node from those of its operands, which are looked for by their place. -/
def kindOf (schema : Schema) (kind : NodeKind) (kinds : List (Option Kind)) :
    Walk TypeError (Option Kind) :=
  match kind with
  | .property name => pure (schema name)
  | .literal content => pure content.value.kind
  | .connect _ | .not | .any => do
    settle (Demand.boolean.checkAll kind.name kinds)
    pure (some .boolean)
  | .isNull | .inList | .compare _ => pure (some .boolean)
  | .between => settle (checkBetween (kinds.map .ok))
  | .like => do
    settle (Demand.string.check kind.name (← look kinds[0]?))
    settle (Demand.stringOrPattern.check kind.name (← look kinds[1]?))
    pure (some .boolean)
  | .arithmetic _ => do
    settle (Demand.numeric.checkAll kind.name kinds)
    pure (resultKind (← look kinds[0]?) (← look kinds[1]?))
  | .negate => do
    settle (Demand.numeric.check kind.name (← look kinds[0]?))
    look kinds[0]?

/-- Check a node. -/
def checkNode (nodes : Nodes) (schema : Schema) (id : Nat) : Walk TypeError (Option Kind) := do
  let node ← look nodes[id]?
  let operands ← look (nodes.operandsOf id node)
  kindOf schema node.kind (← operands.mapM fun operand => nodes |>.checkNode schema operand)
partial_fixpoint

/-! ## Evaluation -/

section Evaluation

variable [Engine]

mutual
/-- Evaluate a node.  An operand is looked for only when it is needed. -/
def evaluateNode (nodes : Nodes) (context : Context) (id : Nat) : Walk EvaluationError Value := do
  let node ← look nodes[id]?
  match node.kind with
  | .property name => settle (context name)
  | .literal content => pure content.value
  | .connect operator => do
    pure (.ofTruth (← nodes |>.evaluateChain context operator (← look (nodes.chainOperands id))))
  | .not => do
    let value ← nodes |>.evaluateNode context (← look node.children[0]?)
    let truth ← settle (truthOf node.kind.name value)
    pure (.ofTruth truth.not)
  | .isNull => do
    let value ← nodes |>.evaluateNode context (← look node.children[0]?)
    pure (.boolean value.isNull)
  | .between => nodes |>.evaluateRange context node.children []
  | .inList => do
    let value ← nodes |>.evaluateNode context (← look node.children[0]?)
    if value.isNull then pure .null
    else do
      let items ← look node.children.tail?
      pure (.ofTruth (← nodes |>.evaluateMember context value (some false) items))
  | .like => do
    let subject ← nodes |>.evaluateNode context (← look node.children[0]?)
    let pattern ← nodes |>.evaluateNode context (← look node.children[1]?)
    if subject.isNull || pattern.isNull then pure .null
    else do
      pure (.boolean (← settle (isLike subject pattern)))
  | .compare operator => do
    match ← nodes |>.evaluateBoth context node.children with
    | none => pure .null
    | some (left, right) => pure (.boolean (operator.holdsOf left right))
  | .any => do
    pure (.ofTruth (← nodes |>.evaluateAny context none node.children))
  | .arithmetic operator => do
    match ← nodes |>.evaluateBoth context node.children with
    | none => pure .null
    | some (left, right) => settle (calculate operator left right)
  | .negate => do
    settle (negated (← nodes |>.evaluateNode context (← look node.children[0]?)))
partial_fixpoint

/-- Evaluate the operands of a run and combine them. -/
def evaluateChain (nodes : Nodes) (context : Context) (operator : Connective) :
    List Nat → Walk EvaluationError Truth
  | [] => pure none
  | first :: rest => do
    let known ← settle (truthOf operator.name (← nodes |>.evaluateNode context first))
    nodes |>.evaluateRest context operator known rest
partial_fixpoint

/-- Go on with a run of which something is known. -/
def evaluateRest (nodes : Nodes) (context : Context) (operator : Connective) (known : Truth) :
    List Nat → Walk EvaluationError Truth
  | [] => pure known
  | operand :: rest => do
    let truth ← settle (truthOf operator.name (← nodes |>.evaluateNode context operand))
    nodes |>.evaluateRest context operator (operator.combine known truth) rest
partial_fixpoint

/-- Evaluate operands up to the first that is true. -/
def evaluateAny (nodes : Nodes) (context : Context) (seen : Truth) :
    List Nat → Walk EvaluationError Truth
  | [] => pure seen
  | operand :: rest => do
    match ← settle (truthOf NodeKind.any.name (← nodes |>.evaluateNode context operand)) with
    | some true => pure (some true)
    | some false => nodes |>.evaluateAny context (some false) rest
    | none => nodes |>.evaluateAny context seen rest
partial_fixpoint

/-- Collect the three values of a range, up to the first null. -/
def evaluateRange (nodes : Nodes) (context : Context) (children : List Nat)
    (values : List Value) : Walk EvaluationError Value := do
  match children with
  | [] =>
    let value ← look values[0]?
    let low ← look values[1]?
    let high ← look values[2]?
    pure (.boolean (← settle (isBetween value low high)))
  | child :: rest =>
    let value ← nodes |>.evaluateNode context child
    if value.isNull then pure .null else nodes |>.evaluateRange context rest (values ++ [value])
partial_fixpoint

/-- Evaluate items up to the first that is equal to a value. -/
def evaluateMember (nodes : Nodes) (context : Context) (value : Value) (seen : Truth) :
    List Nat → Walk EvaluationError Truth
  | [] => pure seen
  | child :: rest => do
    let item ← nodes |>.evaluateNode context child
    if item.isNull then nodes |>.evaluateMember context value none rest
    else if Comparison.eq.holdsOf value item then pure (some true)
    else nodes |>.evaluateMember context value seen rest
partial_fixpoint

/-- Evaluate both operands of a binary node, or one if it is null. -/
def evaluateBoth (nodes : Nodes) (context : Context) (children : List Nat) :
    Walk EvaluationError (Option (Value × Value)) := do
  let left ← nodes |>.evaluateNode context (← look children[0]?)
  if left.isNull then pure none
  else do
    let right ← nodes |>.evaluateNode context (← look children[1]?)
    if right.isNull then pure none else pure (some (left, right))
partial_fixpoint
end

/-! ## Nodes whose operands settle -/

variable {nodes : Nodes} {context : Context} {operands : List Nat}
  {outcomes : List Outcome}

theorem evaluateRest_eq (each : SettlesAt (evaluateNode nodes context) operands outcomes)
    (operator : Connective) (known : Truth) :
    evaluateRest nodes context operator known operands =
      settle (combineRun operator known outcomes) := by
  induction each generalizing known with
  | nil =>
    rw [evaluateRest]
    rfl
  | @cons operand outcome rest outcomes first _ ih =>
    rw [evaluateRest, first, settle_truth, combineRun]
    cases Outcome.truth operator.name outcome with
    | error error => rfl
    | ok truth => exact ih _

theorem evaluateChain_eq (each : SettlesAt (evaluateNode nodes context) operands outcomes)
    (operator : Connective) :
    evaluateChain nodes context operator operands = settle (runTruth operator outcomes) := by
  cases each with
  | nil =>
    rw [evaluateChain]
    rfl
  | @cons operand outcome rest outcomes first others =>
    rw [evaluateChain, first, settle_truth, runTruth]
    cases Outcome.truth operator.name outcome with
    | error error => rfl
    | ok truth => exact evaluateRest_eq others operator truth

theorem evaluateAny_eq (each : SettlesAt (evaluateNode nodes context) operands outcomes)
    (seen : Truth) :
    evaluateAny nodes context seen operands = settle (anyTruth seen outcomes) := by
  induction each generalizing seen with
  | nil =>
    rw [evaluateAny]
    rfl
  | @cons operand outcome rest outcomes first _ ih =>
    rw [evaluateAny, first, settle_truth, anyTruth, NodeKind.name]
    rcases Outcome.truth "ANY" outcome with error | _ | _ | _
    · rfl
    · exact ih _
    · exact ih _
    · rfl

theorem evaluateMember_eq (each : SettlesAt (evaluateNode nodes context) operands outcomes)
    (value : Value) (seen : Truth) :
    evaluateMember nodes context value seen operands =
      settle (memberTruth value seen outcomes) := by
  induction each generalizing seen with
  | nil =>
    rw [evaluateMember]
    rfl
  | @cons operand outcome rest outcomes first _ ih =>
    rw [evaluateMember, first, memberTruth]
    cases outcome with
    | error error => rfl
    | ok item =>
      rw [settle_ok_bind, Except.bind]
      split_ifs
      · exact ih _
      · rfl
      · exact ih _

theorem evaluateBoth_eq {first second : Nat} {left right : Outcome}
    (isLeft : evaluateNode nodes context first = settle left)
    (isRight : evaluateNode nodes context second = settle right) :
    evaluateBoth nodes context [first, second] = settle (bothKnown left right) := by
  rw [evaluateBoth]
  simp only [List.getElem?_cons_zero, List.getElem?_cons_succ, look_some, pure_bind, isLeft,
    isRight]
  cases left with
  | error error => rfl
  | ok left =>
    rw [settle_ok_bind, bothKnown, Except.bind]
    split_ifs
    · rfl
    · cases right with
      | error error => rfl
      | ok right =>
        rw [settle_ok_bind, Except.bind]
        split_ifs <;> rfl

/-- One more value of a range is collected, unless it is null. -/
theorem evaluateRange_cons {child : Nat} {rest : List Nat} {outcome : Outcome}
    (isValue : evaluateNode nodes context child = settle outcome) {values : List Value}
    {next : Value → Outcome}
    (later : ∀ value, evaluateRange nodes context rest (values ++ [value]) =
      settle (next value)) :
    evaluateRange nodes context (child :: rest) values =
      settle (outcome.bind fun value => if value.isNull then .ok .null else next value) := by
  rw [evaluateRange]
  simp only [isValue]
  cases outcome with
  | error error => rfl
  | ok value =>
    rw [settle_ok_bind, Except.bind]
    split_ifs
    · rfl
    · exact later value

theorem evaluateRange_eq {first second third : Nat} {value low high : Outcome}
    (isValue : evaluateNode nodes context first = settle value)
    (isLow : evaluateNode nodes context second = settle low)
    (isHigh : evaluateNode nodes context third = settle high) :
    evaluateRange nodes context [first, second, third] [] =
      settle (betweenOutcome value low high) := by
  refine evaluateRange_cons isValue fun value => ?_
  refine evaluateRange_cons isLow fun low => ?_
  refine evaluateRange_cons isHigh fun high => ?_
  rw [evaluateRange]
  exact settle_map (isBetween value low high) Value.boolean

/-- **A node whose operands settle settles, and its outcome is that of its kind.** -/
theorem evaluateNode_eq {id : Nat} {node : Node} {outcome : Outcome}
    (found : nodes[id]? = some node) (gathered : operandsOf nodes id node = some operands)
    (each : SettlesAt (evaluateNode nodes context) operands outcomes)
    (made : node.kind.outcome? context outcomes = some outcome) :
    evaluateNode nodes context id = settle outcome := by
  obtain ⟨kind, children, parent, grown⟩ := node
  rw [evaluateNode, found, look_some, pure_bind]
  revert made
  fun_cases NodeKind.outcome? context kind outcomes <;> intro made <;> cases made
  case case1 name => rfl
  case case2 content => rfl
  case case3 operator =>
    have gathered : chainOperands nodes id = some operands := gathered
    simp only [gathered, look_some, pure_bind, evaluateChain_eq each]
    exact settle_map _ _
  -- all other kinds are evaluated on their children
  all_goals obtain rfl : children = operands := Option.some.inj gathered
  case case4 operand =>
    obtain _ | ⟨isOperand, _ | _⟩ := each
    simp only [List.getElem?_cons_zero, look_some, pure_bind, isOperand, NodeKind.name,
      settle_truth]
    exact settle_map _ _
  case case5 operand =>
    obtain _ | ⟨isOperand, _ | _⟩ := each
    simp only [List.getElem?_cons_zero, look_some, pure_bind, isOperand]
    exact settle_map _ _
  case case6 value low high =>
    obtain _ | ⟨isValue, _ | ⟨isLow, _ | ⟨isHigh, _ | _⟩⟩⟩ := each
    exact evaluateRange_eq isValue isLow isHigh
  case case7 value items =>
    obtain _ | ⟨isValue, others⟩ := each
    simp only [List.getElem?_cons_zero, List.tail?_cons, look_some, pure_bind, isValue,
      evaluateMember_eq others]
    cases value with
    | error error => rfl
    | ok value =>
      rw [settle_ok_bind, inOutcome, Except.bind]
      split_ifs
      · rfl
      · exact settle_map _ _
  case case8 subject pattern =>
    obtain _ | ⟨isSubject, _ | ⟨isPattern, _ | _⟩⟩ := each
    simp only [List.getElem?_cons_zero, List.getElem?_cons_succ, look_some, pure_bind, isSubject,
      isPattern]
    cases subject with
    | error error => rfl
    | ok subject =>
      cases pattern with
      | error error => rfl
      | ok pattern =>
        simp only [settle_ok_bind, likeOutcome, Except.bind]
        split_ifs
        · rfl
        · exact settle_map _ _
  case case9 operator left right =>
    obtain _ | ⟨isLeft, _ | ⟨isRight, _ | _⟩⟩ := each
    simp only [evaluateBoth_eq isLeft isRight, compareOutcome]
    rcases bothKnown left right with error | _ | ⟨left, right⟩ <;> rfl
  case case10 =>
    simp only [evaluateAny_eq each]
    exact settle_map _ _
  case case11 operator left right =>
    obtain _ | ⟨isLeft, _ | ⟨isRight, _ | _⟩⟩ := each
    simp only [evaluateBoth_eq isLeft isRight, arithmeticOutcome]
    rcases bothKnown left right with error | _ | ⟨left, right⟩ <;> rfl
  case case12 operand =>
    obtain _ | ⟨isOperand, _ | _⟩ := each
    simp only [List.getElem?_cons_zero, look_some, pure_bind, isOperand]
    exact settle_bind _ _

end Evaluation

section Checking

variable {nodes : Array Node} {schema : Schema} {operands : List Nat} {results : List Checked}

theorem mapM_checkNode_eq (each : SettlesAt (checkNode nodes schema) operands results) :
    operands.mapM (checkNode nodes schema) = settle (kindsOf results) := by
  induction each with
  | nil => rfl
  | @cons operand result rest results first _ ih =>
    rw [List.mapM_cons, first, kindsOf]
    cases result with
    | error error => rfl
    | ok kind =>
      rw [settle_ok_bind, ih, Except.bind]
      exact settle_map _ _

/-- **The kind that is put together from those of the operands is that of the node.** -/
theorem kindOf_eq {kind : NodeKind} {result : Checked}
    (made : kind.checked? schema results = some result) :
    (settle (kindsOf results) >>= kindOf schema kind) = settle result := by
  revert made
  fun_cases NodeKind.checked? schema kind results <;> intro made <;> cases made
  case case1 | case2 => rfl
  case case3 | case4 | case10 =>
    rw [checkBooleans]
    cases kindsOf _ with
    | error error => rfl
    | ok kinds => exact settle_map _ _
  case case5 | case7 | case9 => exact settle_map _ _
  case case6 value low high =>
    cases found : kindsOf [value, low, high] with
    | error error =>
      rw [checkBetween, found]
      rfl
    | ok kinds =>
      rw [kindsOf_eq_ok_iff.1 found]
      rfl
  case case8 subject pattern =>
    rcases subject with error | subject
    · rfl
    rcases pattern with error | pattern
    · rfl
    show (settle (Demand.string.check NodeKind.like.name subject) >>= fun _ =>
        settle (Demand.stringOrPattern.check NodeKind.like.name pattern) >>= fun _ =>
          pure (some Kind.boolean)) =
      settle ((Demand.string.check NodeKind.like.name subject).bind fun _ =>
        (Demand.stringOrPattern.check NodeKind.like.name pattern).map fun _ => some Kind.boolean)
    cases Demand.string.check NodeKind.like.name subject with
    | error error => rfl
    | ok _ => exact settle_map _ _
  case case11 operator left right =>
    rcases left with error | left
    · rfl
    rcases right with error | right
    · rfl
    exact settle_map _ _
  case case12 operand =>
    rcases operand with error | kind
    · rfl
    exact settle_map _ _

/-- **A node whose operands settle settles, and its kind is what it is checked to be.** -/
theorem checkNode_eq {id : Nat} {node : Node} {result : Checked}
    (found : nodes[id]? = some node) (gathered : operandsOf nodes id node = some operands)
    (each : SettlesAt (checkNode nodes schema) operands results)
    (made : node.kind.checked? schema results = some result) :
    checkNode nodes schema id = settle result := by
  rw [checkNode, found, look_some, pure_bind, gathered, look_some, pure_bind,
    mapM_checkNode_eq each]
  exact kindOf_eq made

end Checking

/-! ## Forests -/

section Forested

variable {expression : Expression} (forest : (Builder.mk expression.nodes).Forest)
include forest

/-- **The left children of a run come to an end.** -/
theorem gather_eq {operator : Connective} {id : Nat} (inside : id < expression.nodes.size)
    (operands : List Nat) :
    gather expression.nodes operator id operands =
      some (Expression.runBefore expression.nodes operator id operands.reverse) := by
  induction id using Nat.strong_induction_on generalizing operands with
  | h id ih =>
    obtain ⟨⟨kind, children, parent, grown⟩, found⟩ :
      ∃ node, expression.nodes[id]? = some node := ⟨_, Array.getElem?_eq_getElem inside⟩
    rw [gather, Expression.runBefore, found]
    cases kind with
    | connect operator' =>
      obtain ⟨left, right, rfl, before, _⟩ := forest.exists_left_right found rfl
      by_cases same : operator' = operator
      · simp [same, before, ih left before (Nat.lt_trans before inside)]
      · simp [same]
    | _ => simp

theorem chainOperands_eq {id : Nat} (inside : id < expression.nodes.size) :
    chainOperands expression.nodes id = some (expression.chainOperands id) := by
  obtain ⟨⟨kind, children, parent, grown⟩, found⟩ :
    ∃ node, expression.nodes[id]? = some node := ⟨_, Array.getElem?_eq_getElem inside⟩
  rw [chainOperands, Expression.chainOperands, found]
  cases kind with
  | connect operator => exact gather_eq forest inside []
  | _ => rfl

theorem operandsOf_eq {id : Nat} {node : Node} (found : expression.nodes[id]? = some node) :
    operandsOf expression.nodes id node = some (expression.flatOperands id node) := by
  have chain := chainOperands_eq forest (Array.getElem?_eq_some_iff.1 found).1
  rw [operandsOf, Expression.flatOperands]
  cases node.kind with
  | connect operator => exact chain
  | _ => rfl

/-- **A walk settles at every node if each node settles where its operands do.**  The operands stand
before the node, so the walk goes down only so far. -/
theorem settles_of_step {ε α : Type} {walk : Nat → Walk ε α}
    {rule : NodeKind → List (Except ε α) → Option (Except ε α)} {value : Term → Except ε α}
    (gives : ∀ term, rule term.kind (term.flatOperands.map value) = some (value term))
    (step : ∀ {id : Nat} {node : Node} {operands : List Nat} {results : List (Except ε α)}
      {result : Except ε α}, expression.nodes[id]? = some node →
      operandsOf expression.nodes id node = some operands → SettlesAt walk operands results →
      rule node.kind results = some result → walk id = settle result)
    {id : Nat} {term : Term} (carries : (Builder.mk expression.nodes).Carries id term) :
    walk id = settle (value term) := by
  induction id using Nat.strong_induction_on generalizing term with
  | h id ih =>
    obtain ⟨node, found, sameKind, _⟩ := forest.node_of_carries carries
    have operands := (List.forall₂_and_left _ _).2
      ⟨fun _ member => Expression.lt_of_mem_flatOperands forest found member,
        Expression.forall₂_flatOperands forest found carries⟩
    have each : SettlesAt walk (expression.flatOperands id node) (term.flatOperands.map value) :=
      List.forall₂_map_right_iff.2 (operands.imp fun operand _ both => ih operand both.1 both.2)
    exact step found (operandsOf_eq forest found) each (sameKind ▸ gives term)

end Forested

end Nodes

/-! ## Finished expressions -/

namespace Expression

/-- **Nothing looks for what is not there, and nothing goes on for ever.**  From every node of a
finished expression the operands of its run can be gathered, in every context it can be evaluated
and under every schema it can be checked, with every lookup of a node, a child, a value or a kind in
its place; the results are those of the term that the node carries.  The same holds of the loop that
dumps the expression. -/
theorem walks_settle [Engine] {requests : List Builder.Request} {root : Nat}
    {expression : Expression} (built : (Builder.after requests).build root = .ok expression) :
    (∀ (id : Nat) (node : Node), expression.nodes[id]? = some node →
      Nodes.chainOperands expression.nodes id = some (expression.chainOperands id) ∧
      (∀ context, (Nodes.evaluateNode expression.nodes context id).run =
        some (node.grown.term.evaluate context)) ∧
      ∀ schema, (Nodes.checkNode expression.nodes schema id).run =
        some (node.grown.term.check schema)) ∧
    Nodes.writeFrom expression.nodes [(expression.root, false)] "" = some expression.dump := by
  have forest := forest_of_build built
  refine ⟨fun id node found => ?_, expression.writeFrom_root built⟩
  have carries : (Builder.mk expression.nodes).Carries id node.grown.term :=
    Option.map_eq_some_iff.2 ⟨node, found, rfl⟩
  refine ⟨Nodes.chainOperands_eq forest (Array.getElem?_eq_some_iff.1 found).1,
    fun context => ?_, fun schema => ?_⟩
  · exact Nodes.settles_of_step forest (Term.outcome?_flatOperands context) Nodes.evaluateNode_eq
      carries
  · exact Nodes.settles_of_step forest (Term.checked?_flatOperands schema) Nodes.checkNode_eq
      carries

/-- A range or a negation, for a candidate of which the range is known and the other is not: the
range takes all three places among its values, and the run has two operands. -/
theorem walks_settle_range :
    let context : Context := fun name =>
      if name = "x" then .ok (.integer 2) else .ok .null
    ∃ expression,
      (Builder.after [(.property "x", []), (.literal (.number (.integer 1)), []),
        (.literal (.number (.integer 3)), []), (.between, [0, 1, 2]), (.property "y", []),
        (.not, [4]), (.connect .or, [3, 5])]).build 6 = .ok expression ∧
      (@Nodes.evaluateNode Engine.direct expression.nodes context 6).run =
        some (.ok (.boolean true)) ∧
      Nodes.chainOperands expression.nodes 6 = some (expression.chainOperands 6) := by
  let requests : List Builder.Request :=
    [(.property "x", []), (.literal (.number (.integer 1)), []),
      (.literal (.number (.integer 3)), []), (.between, [0, 1, 2]), (.property "y", []),
      (.not, [4]), (.connect .or, [3, 5])]
  intro context
  obtain ⟨expression, built, same⟩ : ∃ expression, (Builder.after requests).build 6 =
      .ok expression ∧ expression.term =
        .connect .or
          (.between (.property "x") (.literal (.number (.integer 1)))
            (.literal (.number (.integer 3))))
          (.not (.property "y")) := by
    refine ⟨_, rfl, ?_⟩
    rfl
  obtain ⟨_, sameNodes, _⟩ := Builder.build_eq_ok_iff.1 built
  obtain ⟨node, found, carried⟩ := Option.map_eq_some_iff.1 (Builder.termAt_root built)
  rw [← sameNodes] at found
  obtain ⟨gathered, evaluated, _⟩ :=
    (@walks_settle Engine.direct requests 6 expression built).1 6 node found
  have value : @Term.plainValue Engine.direct context expression.term = .ok (.boolean true) := by
    rw [same]
    simp only [Term.plainValue]
    rfl
  have atRoot := evaluated context
  rw [carried, @Term.evaluate_eq_plainValue Engine.direct, value] at atRoot
  exact ⟨expression, built, atRoot, gathered⟩

end Expression

end Sift
