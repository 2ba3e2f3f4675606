import Sift.Expression.Term
import Sift.Reflection.Error

/-!
# Failures of expressions

Three things can go wrong with an expression, each at its own time: it cannot be built, it is
rejected by the check of kinds, or it cannot be evaluated for a candidate.  Evaluation itself fails
in few ways, but it also passes on whatever a property of the candidate fails with, so a failure of
evaluation may be any failure of an expression.  Those of the other two times are reported as such
failures (`BuildError.report`, `TypeError.report`).
-/

namespace Sift

/-! ## Evaluating -/

/-- Why an expression has no value for a candidate. -/
inductive EvaluationError where
  | access (error : AccessError)
  | unbound (name : String)
  | operandKinds (operator : String) (left right : Option Kind)
  | divisionByZero
  | arity (node expected : String) (actual : Nat)
  | alreadyAttached (node : String)
  | detached (node : String)
  | tooDeep (limit : Nat)
  | invalidPattern (pattern message : String)
  | typeMismatch (context expected : String) (actual : Kind)
  | failed (message : String)
  deriving DecidableEq, Repr

/-- A kind, known or not, in a message. -/
def describeKind : Option Kind → String
  | none => "None"
  | some .boolean => "Some(Boolean)"
  | some .integer => "Some(Integer)"
  | some .float => "Some(Float)"
  | some .string => "Some(String)"
  | some .pattern => "Some(Pattern)"

/-- The text of an evaluation error. -/
def EvaluationError.message : EvaluationError → String
  | .access error => "Property access failed: " ++ error.message
  | .unbound name => "Identifier '" ++ name ++ "' is not bound"
  | .operandKinds operator left right =>
    "Invalid operand types for operator " ++ operator ++ ": left=" ++ describeKind left ++
      ", right=" ++ describeKind right
  | .divisionByZero => "Division by zero"
  | .arity node expected actual =>
    node ++ " expects " ++ expected ++ " operands, got " ++ toString actual
  | .alreadyAttached node => "Node " ++ node ++ " already has a parent"
  | .detached node => "Node " ++ node ++ " is not reachable from the root"
  | .tooDeep limit => "Expression nested deeper than " ++ toString limit ++ " levels"
  | .invalidPattern pattern message => "Invalid LIKE pattern '" ++ pattern ++ "': " ++ message
  | .typeMismatch context expected actual =>
    "Type mismatch in " ++ context ++ ": expected " ++ expected ++ ", got " ++ actual.name
  | .failed message => "Expression evaluation error: " ++ message

/-- The texts of the errors below an evaluation error. -/
def EvaluationError.causes : EvaluationError → List String
  | .access error => [error.message]
  | _ => []

/-! ## Building -/

/-- The deepest tree that can be built. -/
def maxDepth : Nat := 128

/-- Why a node or a tree cannot be built. -/
inductive BuildError where
  | arity (node : String) (expected : Arity) (actual : Nat)
  | unknownNode (id : Nat)
  | unknownRoot (id : Nat)
  | alreadyAttached (node : String)
  | detached (node : String)
  | tooDeep
  | invalidPattern (pattern message : String)
  deriving DecidableEq, Repr

/-- A build error among the failures of expressions. -/
def BuildError.report : BuildError → EvaluationError
  | .arity node expected actual => .arity node expected.describe actual
  | .unknownNode id => .failed ("unknown node id " ++ toString id)
  | .unknownRoot id => .failed ("unknown root node id " ++ toString id)
  | .alreadyAttached node => .alreadyAttached node
  | .detached node => .detached node
  | .tooDeep => .tooDeep maxDepth
  | .invalidPattern pattern message => .invalidPattern pattern message

/-- The text of a build error. -/
def BuildError.message (error : BuildError) : String :=
  error.report.message

/-! ## Checking -/

/-- What a node demands of its operands. -/
inductive Demand where
  | boolean
  | numeric
  | string
  | stringOrPattern
  | numericOrStrings
  deriving DecidableEq, Repr

/-- The text of a demand. -/
def Demand.describe : Demand → String
  | .boolean => "boolean"
  | .numeric => "numeric"
  | .string => "string"
  | .stringOrPattern => "string or pattern"
  | .numericOrStrings => "all numeric or all string operands"

/-- An operand of a known kind does not meet the demand of the node it stands under. -/
structure TypeError where
  context : String
  demand : Demand
  actual : Kind
  deriving DecidableEq, Repr

/-- A type error among the failures of expressions. -/
def TypeError.report (error : TypeError) : EvaluationError :=
  .typeMismatch error.context error.demand.describe error.actual

/-- The text of a type error. -/
def TypeError.message (error : TypeError) : String :=
  error.report.message

end Sift
