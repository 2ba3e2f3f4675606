import Sift.Expression.Error
import Sift.Pattern.Engine

/-!
# Evaluating terms

A term is evaluated in a context, which gives each property its value or a reason why it has none.
Null is an unknown value: the connectives treat it by three-valued logic, and every other operator
that needs an operand is unknown where the operand is.

The operands of a run are evaluated one after the other and their truth values combined from the
left.  The first operand that fails decides the failure, also where an earlier operand has already
settled the truth value; only `ANY`, `IN`, `BETWEEN` and the binary operators stop early.
-/

namespace Sift

/-- What evaluating an operand gives. -/
abbrev Outcome := Except EvaluationError Value

/-- The values of properties. -/
abbrev Context := String → Outcome

/-! ## Operators on outcomes -/

/-- An operand of a connective as a truth value. -/
def truthOf (operator : String) : Value → Except EvaluationError Truth
  | .null => .ok none
  | .boolean b => .ok (some b)
  | value => .error (.operandKinds operator value.kind none)

/-- The truth value of an operand of a connective. -/
def Outcome.truth (operator : String) (outcome : Outcome) : Except EvaluationError Truth :=
  outcome.bind (truthOf operator)

/-- Combine the operands of a run with what is known so far. -/
def combineRun (operator : Connective) (known : Truth) :
    List Outcome → Except EvaluationError Truth
  | [] => .ok known
  | outcome :: rest =>
    (Outcome.truth operator.name outcome).bind fun truth =>
      combineRun operator (operator.combine known truth) rest

/-- The truth value of a run. -/
def runTruth (operator : Connective) : List Outcome → Except EvaluationError Truth
  | [] => .ok none
  | first :: rest =>
    (Outcome.truth operator.name first).bind fun truth => combineRun operator truth rest

/-- `ANY`: true at the first operand that is true; unknown only if every operand is. -/
def anyTruth (seen : Truth) : List Outcome → Except EvaluationError Truth
  | [] => .ok seen
  | outcome :: rest =>
    match Outcome.truth "ANY" outcome with
    | .error error => .error error
    | .ok (some true) => .ok (some true)
    | .ok (some false) => anyTruth (some false) rest
    | .ok none => anyTruth seen rest

/-- Both operands of a binary operator, or none as soon as one is unknown. -/
def bothKnown (left right : Outcome) : Except EvaluationError (Option (Value × Value)) :=
  left.bind fun left =>
    if left.isNull then .ok none
    else right.bind fun right => .ok (if right.isNull then none else some (left, right))

/-- Whether a value lies between two others, the ends included. -/
def isBetween (value low high : Value) : Except EvaluationError Bool :=
  match value.numeral?, low.numeral?, high.numeral? with
  | some (.integer v), some (.integer l), some (.integer h) => .ok (l ≤ v && v ≤ h)
  | some v, some l, some h =>
    .ok (l.toFloat ≤ v.toFloat && v.toFloat ≤ h.toFloat)
  | _, _, _ =>
    match value, low, high with
    | .string v, .string l, .string h => .ok (l ≤ v && v ≤ h)
    | _, _, _ =>
      let other := if low.kind ≠ value.kind then low.kind else high.kind
      .error (.operandKinds "BETWEEN" value.kind other)

/-- `BETWEEN`: unknown at the first operand that is. -/
def betweenOutcome (value low high : Outcome) : Outcome :=
  value.bind fun value =>
    if value.isNull then .ok .null
    else low.bind fun low =>
      if low.isNull then .ok .null
      else high.bind fun high =>
        if high.isNull then .ok .null else (isBetween value low high).map .boolean

/-- Look for a value among items: true at the first equal one, else unknown if an item was. -/
def memberTruth (value : Value) (seen : Truth) : List Outcome → Except EvaluationError Truth
  | [] => .ok seen
  | item :: rest =>
    item.bind fun item =>
      if item.isNull then memberTruth value none rest
      else if Comparison.eq.holdsOf value item then .ok (some true)
      else memberTruth value seen rest

/-- `IN`: unknown if the value is. -/
def inOutcome (value : Outcome) (items : List Outcome) : Outcome :=
  value.bind fun value =>
    if value.isNull then .ok .null
    else (memberTruth value (some false) items).map Value.ofTruth

/-- Whether a text matches a pattern.  A string serves as a pattern without escape character, which
is compiled on the spot. -/
def isLike [Engine] (subject pattern : Value) : Except EvaluationError Bool :=
  match subject, pattern with
  | .string text, .pattern p => .ok (p.accepts text)
  | .string text, .string p =>
    match Pattern.compile ⟨p, none⟩ with
    | .ok test => .ok (test text)
    | .error message => .error (.invalidPattern p message)
  | _, _ => .error (.operandKinds "LIKE" subject.kind pattern.kind)

/-- `LIKE`: both operands are evaluated before either is found unknown. -/
def likeOutcome [Engine] (subject pattern : Outcome) : Outcome :=
  subject.bind fun subject =>
    pattern.bind fun pattern =>
      if subject.isNull || pattern.isNull then .ok .null
      else (isLike subject pattern).map .boolean

/-- A comparison of two operands. -/
def compareOutcome (operator : Comparison) (left right : Outcome) : Outcome :=
  (bothKnown left right).map fun
    | none => .null
    | some (left, right) => .boolean (operator.holdsOf left right)

/-- Arithmetic on two values. -/
def calculate (operator : Arithmetic) (left right : Value) : Outcome :=
  match left.numeral?, right.numeral? with
  | some a, some b =>
    match operator.onNumerals a b with
    | some value => .ok value
    | none => .error .divisionByZero
  | _, _ => .error (.operandKinds operator.symbol left.kind right.kind)

/-- Arithmetic on two operands. -/
def arithmeticOutcome (operator : Arithmetic) (left right : Outcome) : Outcome :=
  (bothKnown left right).bind fun
    | none => .ok .null
    | some (left, right) => calculate operator left right

/-- The value with the other sign. -/
def negated : Value → Outcome
  | .null => .ok .null
  | .integer n => .ok (.integer (-n))
  | .float x => .ok (.float (-x))
  | value => .error (.operandKinds "-" value.kind none)

/-! ## The evaluator -/

/-- The value of a term in a context. -/
def Term.evaluate [Engine] (context : Context) : Term → Outcome
  | .property name => context name
  | .literal content => .ok content.value
  | .connect operator left right =>
    (runTruth operator ((runOf operator left right).attach.map fun operand =>
      operand.val.evaluate context)).map Value.ofTruth
  | .not operand =>
    (Outcome.truth "NOT" (operand.evaluate context)).map fun truth => Value.ofTruth truth.not
  | .isNull operand => (operand.evaluate context).map fun value => .boolean value.isNull
  | .between value low high =>
    betweenOutcome (value.evaluate context) (low.evaluate context) (high.evaluate context)
  | .inList value items =>
    inOutcome (value.evaluate context) (items.map fun item => item.evaluate context)
  | .like subject pattern => likeOutcome (subject.evaluate context) (pattern.evaluate context)
  | .compare operator left right =>
    compareOutcome operator (left.evaluate context) (right.evaluate context)
  | .any operands =>
    (anyTruth none (operands.map fun operand => operand.evaluate context)).map Value.ofTruth
  | .arithmetic operator left right =>
    arithmeticOutcome operator (left.evaluate context) (right.evaluate context)
  | .negate operand => (operand.evaluate context).bind negated
termination_by term => sizeOf term
decreasing_by
  all_goals first
    | exact sizeOf_lt_of_mem_runOf (Subtype.property _)
    | decreasing_tactic

/-- A property has the value that the context gives it. -/
theorem Term.evaluate_property [Engine] (context : Context) (name : String) :
    (Term.property name).evaluate context = context name := by
  rw [Term.evaluate]

/-- A connective is evaluated on the operands of its run. -/
theorem Term.evaluate_connect [Engine] (context : Context) (operator : Connective)
    (left right : Term) :
    (Term.connect operator left right).evaluate context =
      (runTruth operator ((runOf operator left right).map fun operand =>
        operand.evaluate context)).map Value.ofTruth := by
  rw [Term.evaluate, List.attach_map_val (f := Term.evaluate context)]

end Sift
