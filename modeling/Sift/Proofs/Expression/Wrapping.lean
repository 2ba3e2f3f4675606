import Mathlib.Data.Int.ModEq
import Sift.Proofs.Expression.Checking

/-!
# Integer arithmetic over the unbounded integers

Sums, differences, products and negations of 64-bit integers wrap.  Taking an unbounded integer
modulo 2^64 respects all four, so it makes no difference whether every node of a tree wraps or the
tree is worked out over the unbounded integers and its value wraps once, at the root
(`Term.evaluate_of_wholeValue?`).  An overflow further down, or the negation of the least integer,
does no harm that a later operation could not undo.

Quotients and remainders do not respect the modulus, so trees that contain one are left out.
-/

set_option autoImplicit false

namespace Sift

/-! ## Over the unbounded integers -/

/-- The operators that can be worked out modulo 2^64, on unbounded integers. -/
def Arithmetic.onWhole? : Arithmetic → Int → Int → Option Int
  | .add, left, right => some (left + right)
  | .subtract, left, right => some (left - right)
  | .multiply, left, right => some (left * right)
  | .divide, _, _ | .modulus, _, _ => none

/-- The value of a term over the unbounded integers, if it is made of integer literals, properties,
sums, differences, products and negations alone. -/
def Term.wholeValue? (values : String → Int) : Term → Option Int
  | .property name => some (values name)
  | .literal (.number (.integer n)) => some n.toInt
  | .arithmetic operator left right => do
    operator.onWhole? (← left.wholeValue? values) (← right.wholeValue? values)
  | .negate operand => (operand.wholeValue? values).map (- ·)
  | _ => none

/-- The kinds of node that such a term is made of. -/
inductive NodeKind.Whole : NodeKind → Prop where
  | property (name : String) : Whole (.property name)
  | integer (n : Int64) : Whole (.literal (.number (.integer n)))
  | add : Whole (.arithmetic .add)
  | subtract : Whole (.arithmetic .subtract)
  | multiply : Whole (.arithmetic .multiply)
  | negate : Whole .negate

theorem NodeKind.Whole.exists_onWhole? {operator : Arithmetic}
    (whole : NodeKind.Whole (.arithmetic operator)) (left right : Int) :
    ∃ value, operator.onWhole? left right = some value := by
  cases whole <;> exact ⟨_, rfl⟩

/-- A term of these kinds of node has a value over the unbounded integers. -/
theorem Term.exists_wholeValue? (values : String → Int) {term : Term}
    (only : term.Only NodeKind.Whole) : ∃ value, term.wholeValue? values = some value := by
  induction only with
  | @node term root _ ih =>
    cases term with
    | property name => exact ⟨_, rfl⟩
    | literal content =>
      cases root
      exact ⟨_, rfl⟩
    | arithmetic operator left right =>
      obtain ⟨leftValue, hasLeft⟩ := ih left (List.mem_cons_self ..)
      obtain ⟨rightValue, hasRight⟩ := ih right (List.mem_cons_of_mem _ (List.mem_cons_self ..))
      obtain ⟨value, found⟩ := NodeKind.Whole.exists_onWhole? root leftValue rightValue
      exact ⟨value, by rw [wholeValue?, hasLeft, hasRight]; exact found⟩
    | negate operand =>
      obtain ⟨value, found⟩ := ih operand (List.mem_cons_self ..)
      exact ⟨-value, by rw [wholeValue?, found]; rfl⟩
    | _ => cases root

/-! ## Wrapping -/

/-- An operator on wrapped integers gives its wrapped result. -/
theorem Arithmetic.onIntegers_ofInt {operator : Arithmetic} {left right value : Int}
    (whole : operator.onWhole? left right = some value) :
    operator.onIntegers (.ofInt left) (.ofInt right) = some (.ofInt value) := by
  cases operator with
  | add =>
    obtain rfl := Option.some.inj whole
    rw [onIntegers, Int64.ofInt_add]
  | subtract =>
    obtain rfl := Option.some.inj whole
    rw [onIntegers, Int64.ofInt_sub]
  | multiply =>
    obtain rfl := Option.some.inj whole
    rw [onIntegers, Int64.ofInt_mul]
  | divide | modulus => cases whole

/-- An operator on integers, as the evaluator applies it. -/
theorem arithmeticOutcome_integers {operator : Arithmetic} {left right value : Int64}
    (found : operator.onIntegers left right = some value) :
    arithmeticOutcome operator (.ok (.integer left)) (.ok (.integer right)) =
      .ok (.integer value) := by
  show calculate operator (.integer left) (.integer right) = _
  simp only [calculate, Value.numeral?, Arithmetic.onNumerals, Numeral.promote, found,
    Option.map_some]

/-- **Wrapping at every node is wrapping once.**  A term evaluates to its value over the unbounded
integers, wrapped. -/
theorem Term.evaluate_of_wholeValue? [Engine] {context : Context} {values : String → Int}
    {term : Term} {value : Int} (whole : term.wholeValue? values = some value)
    (bound : ∀ name, term.Mentions name → context name = .ok (.integer (.ofInt (values name)))) :
    term.evaluate context = .ok (.integer (.ofInt value)) := by
  induction term generalizing value with
  | property name =>
    obtain rfl := Option.some.inj whole
    rw [evaluate]
    exact bound name .here
  | literal content =>
    rcases content with _ | n | _ | _
    case number =>
      cases n with
      | integer n =>
        obtain rfl := Option.some.inj whole
        rw [evaluate, Int64.ofInt_toInt]
        rfl
      | float x => cases whole
    all_goals cases whole
  | arithmetic operator left right ihLeft ihRight =>
    obtain ⟨leftValue, hasLeft, whole⟩ := Option.bind_eq_some_iff.1 whole
    obtain ⟨rightValue, hasRight, whole⟩ := Option.bind_eq_some_iff.1 whole
    have evaluatedLeft := ihLeft hasLeft fun name mentioned =>
      bound name (.inside (List.mem_cons_self ..) mentioned)
    have evaluatedRight := ihRight hasRight fun name mentioned =>
      bound name (.inside (List.mem_cons_of_mem _ (List.mem_cons_self ..)) mentioned)
    rw [evaluate, evaluatedLeft, evaluatedRight]
    exact arithmeticOutcome_integers (Arithmetic.onIntegers_ofInt whole)
  | negate operand ih =>
    obtain ⟨operandValue, hasOperand, rfl⟩ := Option.map_eq_some_iff.1 whole
    have evaluated := ih hasOperand fun name mentioned =>
      bound name (.inside (List.mem_cons_self ..) mentioned)
    rw [evaluate, evaluated, Int64.ofInt_neg]
    rfl
  | _ => cases whole

/-- An unbounded integer is congruent to what it wraps to. -/
theorem toInt_ofInt_modEq (value : Int) : (Int64.ofInt value).toInt ≡ value [ZMOD 2 ^ 64] := by
  rw [Int64.toInt_ofInt]
  exact Int.bmod_emod

/-! ## Finished expressions -/

/-- **Integer arithmetic is exact modulo 2^64.**  Let all nodes of an expression be integer
literals, properties, sums, differences, products and negations, and let its identifiers have
integers as values.  Then it has a value over the unbounded integers, and evaluates to the 64-bit
integer that is congruent to this value, wherever in between an overflow occurs. -/
theorem Expression.evaluate_modEq [Engine] {requests : List Builder.Request} {root : Nat}
    {expression : Expression} (built : (Builder.after requests).build root = .ok expression)
    (whole : ∀ (id : Nat) (node : Node), expression.nodes[id]? = some node → node.kind.Whole)
    {context : Context} {values : String → Int64}
    (bound : ∀ name ∈ expression.identifiers, context name = .ok (.integer (values name))) :
    ∃ (value : Int) (n : Int64),
      expression.term.wholeValue? (fun name => (values name).toInt) = some value ∧
        expression.term.evaluate context = .ok (.integer n) ∧
        n.toInt ≡ value [ZMOD 2 ^ 64] ∧ -2 ^ 63 ≤ n.toInt ∧ n.toInt < 2 ^ 63 := by
  obtain ⟨_, sameNodes, _⟩ := Builder.build_eq_ok_iff.1 built
  have only : expression.term.Only NodeKind.Whole :=
    (Builder.forest_after requests).only (sameNodes ▸ whole) (Builder.termAt_root built)
  obtain ⟨value, hasValue⟩ := Term.exists_wholeValue? (fun name => (values name).toInt) only
  refine ⟨value, .ofInt value, hasValue, ?_, toInt_ofInt_modEq value, Int64.le_toInt _,
    Int64.toInt_lt _⟩
  refine Term.evaluate_of_wholeValue? hasValue fun name mentioned => ?_
  rw [bound name (mem_identifiers_of_mentions built mentioned), Int64.ofInt_toInt]

/-- The difference of the least integer and one is the greatest one, and its negation is congruent
to 2^63 + 1. -/
theorem Expression.evaluate_modEq_least :
    ∃ (expression : Expression) (n : Int64),
      (Builder.after [(.property "x", []), (.literal (.number (.integer 1)), []),
        (.arithmetic .subtract, [0, 1]), (.negate, [2])]).build 3 = .ok expression ∧
      expression.term.wholeValue? (fun _ => Int64.minValue.toInt) = some (2 ^ 63 + 1) ∧
      @Term.evaluate Engine.direct (fun _ => .ok (.integer Int64.minValue)) expression.term =
        .ok (.integer n) ∧
      n.toInt ≡ 2 ^ 63 + 1 [ZMOD 2 ^ 64] := by
  let requests : List Builder.Request := [(.property "x", []),
    (.literal (.number (.integer 1)), []), (.arithmetic .subtract, [0, 1]), (.negate, [2])]
  obtain ⟨expression, built, kinds, same⟩ : ∃ expression, (Builder.after requests).build 3 =
      .ok expression ∧
      expression.nodes.toList.map Node.kind = [.property "x", .literal (.number (.integer 1)),
        .arithmetic .subtract, .negate] ∧
      expression.term = .negate (.arithmetic .subtract (.property "x")
        (.literal (.number (.integer 1)))) := ⟨_, rfl, rfl, rfl⟩
  have whole : ∀ (id : Nat) (node : Node), expression.nodes[id]? = some node →
      node.kind.Whole := by
    refine Node.forall_of_kinds kinds fun kind member => ?_
    simp only [List.mem_cons, List.not_mem_nil, or_false] at member
    rcases member with rfl | rfl | rfl | rfl <;> constructor
  have hasValue : expression.term.wholeValue? (fun _ => Int64.minValue.toInt) =
      some (2 ^ 63 + 1) := by
    rw [same]
    rfl
  obtain ⟨value, n, hasValue', evaluated, congruent, _⟩ :=
    @evaluate_modEq Engine.direct requests 3 expression built whole
      (fun _ => .ok (.integer Int64.minValue)) (fun _ => Int64.minValue) fun _ _ => rfl
  obtain rfl := Option.some.inj (hasValue'.symm.trans hasValue)
  exact ⟨expression, n, built, hasValue, evaluated, congruent⟩

end Sift
