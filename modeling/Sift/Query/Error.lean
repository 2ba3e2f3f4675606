import Sift.Expression.Error
import Sift.Language.Error

/-!
# Failures of queries

A query fails before it meets a candidate if its text is not a predicate, its expression cannot be
built, a property has no accessor or the kinds do not fit.  On a candidate it fails if the
expression has no value there, or a value that is no truth value.
-/

namespace Sift

/-- Why a query cannot be made or has no answer for a candidate. -/
inductive QueryError where
  | parse (error : ParseError)
  | unbuilt (error : BuildError)
  | missing (error : MissingAccessor)
  | types (error : TypeError)
  | evaluation (error : EvaluationError)
  | notPredicate (kind : Kind)

namespace QueryError

/-- The text of a query error. -/
def message : QueryError → String
  | parse error => "Parse error: " ++ error.message
  | unbuilt error => "Evaluation failed: " ++ error.message
  | missing error => error.message
  | types error => "Type error: " ++ error.message
  | evaluation error => "Evaluation failed: " ++ error.message
  | notPredicate kind => "Predicate produced a " ++ kind.name ++ " value instead of a boolean"

/-- The texts of the errors below a query error, the outermost first. -/
def causes : QueryError → List String
  | parse error => error.message :: error.causes
  | unbuilt error => [error.message]
  | missing _ => []
  | types _ => []
  | evaluation error => error.message :: error.causes
  | notPredicate _ => []

end QueryError

end Sift
