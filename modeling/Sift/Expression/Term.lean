import Sift.Value.Arithmetic
import Sift.Value.Comparison

/-!
# Terms

A term is the meaning of a predicate: a tree whose leaves are literals and properties of the
candidate and whose inner nodes are connectives, tests, comparisons and arithmetic.  Each
constructor takes exactly the operands it needs, so nothing that works on terms ever asks whether
an operand is there.

A conjunction or disjunction that leans to the left, such as `(a OR b) OR c`, is read as one run of
operands `a, b, c`.  Evaluation, checking and the measure of depth treat a run as flat, which is
why a predicate may have any number of alternatives although its nesting is bounded.
-/

namespace Sift

/-! ## Leaves and operators -/

/-- The literals of the language; null is not among them. -/
inductive Literal where
  | boolean (b : Bool)
  | number (n : Numeral)
  | string (s : String)
  | pattern (p : Pattern)

/-- The value of a literal. -/
def Literal.value : Literal → Value
  | .boolean b => .boolean b
  | .number (.integer n) => .integer n
  | .number (.float x) => .float x
  | .string s => .string s
  | .pattern p => .pattern p

/-- The two connectives that form runs. -/
inductive Connective where
  | and
  | or
  deriving DecidableEq, Repr

/-- The connective as it is written. -/
def Connective.name : Connective → String
  | .and => "AND"
  | .or => "OR"

/-- The connective on truth values. -/
def Connective.combine : Connective → Truth → Truth → Truth
  | .and => Truth.and
  | .or => Truth.or

/-! ## Terms -/

/-- A predicate, or a part of one. -/
inductive Term where
  | property (name : String)
  | literal (content : Literal)
  | connect (operator : Connective) (left right : Term)
  | not (operand : Term)
  | isNull (operand : Term)
  | between (value low high : Term)
  | inList (value : Term) (items : List Term)
  | like (subject pattern : Term)
  | compare (operator : Comparison) (left right : Term)
  | any (operands : List Term)
  | arithmetic (operator : Arithmetic) (left right : Term)
  | negate (operand : Term)

namespace Term

/-- Whether a term is a node of the given connective, so that a run may go on through it. -/
def continues (operator : Connective) : Term → Bool
  | connect operator' _ _ => operator' == operator
  | _ => false

/-! ## Runs -/

/-- The operands of the run of a connective that ends in a term, in front of the `later` ones. -/
def runBefore (operator : Connective) : Term → List Term → List Term
  | connect operator' left right, later =>
    if operator' = operator then left.runBefore operator (right :: later)
    else connect operator' left right :: later
  | term, later => term :: later

/-- The operands of the run rooted at a node of a connective, from left to right. -/
def runOf (operator : Connective) (left right : Term) : List Term :=
  left.runBefore operator [right]

theorem mem_runBefore {operator : Connective} {term operand : Term} {later : List Term}
    (member : operand ∈ term.runBefore operator later) :
    sizeOf operand ≤ sizeOf term ∨ operand ∈ later := by
  fun_induction runBefore operator term later with
  | case1 left right later inductionHypothesis =>
    rcases inductionHypothesis member with smaller | inRest
    · exact Or.inl (by simp only [connect.sizeOf_spec]; omega)
    · rcases List.mem_cons.1 inRest with rfl | inLater
      · exact Or.inl (by simp only [connect.sizeOf_spec]; omega)
      · exact Or.inr inLater
  | case2 operator' left right later different =>
    rcases List.mem_cons.1 member with rfl | inLater
    · exact Or.inl (Nat.le_refl _)
    · exact Or.inr inLater
  | case3 term later other =>
    rcases List.mem_cons.1 member with rfl | inLater
    · exact Or.inl (Nat.le_refl _)
    · exact Or.inr inLater

/-- An operand of a run is smaller than the run, so a function may recurse into it. -/
theorem sizeOf_lt_of_mem_runOf {operator : Connective} {left right operand : Term}
    (member : operand ∈ runOf operator left right) :
    sizeOf operand < sizeOf (connect operator left right) := by
  rcases mem_runBefore member with smaller | last
  · simp only [connect.sizeOf_spec]; omega
  · rw [List.mem_singleton.1 last]
    simp only [connect.sizeOf_spec]; omega

end Term

/-! ## Kinds of node -/

/-- What a node of a tree computes, apart from its operands. -/
inductive NodeKind where
  | property (name : String)
  | literal (content : Literal)
  | connect (operator : Connective)
  | not
  | isNull
  | between
  | inList
  | like
  | compare (operator : Comparison)
  | any
  | arithmetic (operator : Arithmetic)
  | negate

/-- How many operands a kind of node takes. -/
inductive Arity where
  | leaf
  | unary
  | binary
  | ternary
  | variadic
  deriving DecidableEq, Repr

/-- Whether a number of operands fits. -/
def Arity.accepts : Arity → Nat → Bool
  | .leaf, count => count == 0
  | .unary, count => count == 1
  | .binary, count => count == 2
  | .ternary, count => count == 3
  | .variadic, count => 1 ≤ count

/-- The number of operands in messages. -/
def Arity.describe : Arity → String
  | .leaf => "0"
  | .unary => "1"
  | .binary => "2"
  | .ternary => "3"
  | .variadic => "at least 1"

namespace NodeKind

/-- The number of operands a kind takes. -/
def arity : NodeKind → Arity
  | .property _ | .literal _ => .leaf
  | .not | .isNull | .negate => .unary
  | .connect _ | .like | .compare _ | .arithmetic _ => .binary
  | .between => .ternary
  | .inList | .any => .variadic

/-- The tag of a node; a property is tagged with its own name. -/
def name : NodeKind → String
  | .property name => name
  | .literal (.boolean _) => "BooleanLiteral"
  | .literal (.number _) => "NumericLiteral"
  | .literal (.string _) => "StringLiteral"
  | .literal (.pattern _) => "PatternLiteral"
  | .connect operator => operator.name
  | .not => "NOT"
  | .isNull => "NULL"
  | .between => "BETWEEN"
  | .inList => "IN"
  | .like => "LIKE"
  | .compare _ => "Comparison"
  | .any => "ANY"
  | .arithmetic operator => operator.symbol
  | .negate => "-"

/-- The term of a node over the terms of its operands, if their number fits. -/
def term? : NodeKind → List Term → Option Term
  | .property name, [] => some (.property name)
  | .literal content, [] => some (.literal content)
  | .connect operator, [left, right] => some (.connect operator left right)
  | .not, [operand] => some (.not operand)
  | .isNull, [operand] => some (.isNull operand)
  | .between, [value, low, high] => some (.between value low high)
  | .inList, value :: items => some (.inList value items)
  | .like, [subject, pattern] => some (.like subject pattern)
  | .compare operator, [left, right] => some (.compare operator left right)
  | .any, operand :: operands => some (.any (operand :: operands))
  | .arithmetic operator, [left, right] => some (.arithmetic operator left right)
  | .negate, [operand] => some (.negate operand)
  | _, _ => none

/-- A kind makes a term of exactly the operand lists that its arity accepts. -/
theorem isSome_term? (kind : NodeKind) (operands : List Term) :
    (kind.term? operands).isSome = kind.arity.accepts operands.length := by
  cases kind <;> rcases operands with _ | ⟨first, _ | ⟨second, _ | ⟨third, _ | ⟨fourth, rest⟩⟩⟩⟩ <;>
    simp [term?, arity, Arity.accepts]

end NodeKind

/-! ## Terms as nodes -/

namespace Term

/-- The kind of the root node of a term. -/
def kind : Term → NodeKind
  | property name => .property name
  | literal content => .literal content
  | connect operator _ _ => .connect operator
  | not _ => .not
  | isNull _ => .isNull
  | between .. => .between
  | inList .. => .inList
  | like .. => .like
  | compare operator _ _ => .compare operator
  | any _ => .any
  | arithmetic operator _ _ => .arithmetic operator
  | negate _ => .negate

/-- The operands of the root node of a term. -/
def operands : Term → List Term
  | property _ | literal _ => []
  | not operand | isNull operand | negate operand => [operand]
  | connect _ left right | compare _ left right | arithmetic _ left right => [left, right]
  | like subject pattern => [subject, pattern]
  | between value low high => [value, low, high]
  | inList value items => value :: items
  | any operands => operands

end Term

end Sift
