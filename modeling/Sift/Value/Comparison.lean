import Sift.Value.Basic

/-!
# Comparing values

The six comparisons are tests on an order.  Strings are ordered by their characters and numbers
after promotion; booleans are only equal or unequal.  A pair that has no order satisfies no
comparison, except that a NaN is unequal to every number.
-/

namespace Sift

/-- The comparison operators. -/
inductive Comparison where
  | eq
  | ne
  | lt
  | gt
  | le
  | ge
  deriving DecidableEq, Repr

namespace Comparison

/-- The operator as it is written. -/
def symbol : Comparison → String
  | .eq => "="
  | .ne => "<>"
  | .lt => "<"
  | .gt => ">"
  | .le => "<="
  | .ge => ">="

/-- Whether an order satisfies the operator. -/
def holds : Comparison → Ordering → Bool
  | .eq, order => order == .eq
  | .ne, order => order != .eq
  | .lt, order => order == .lt
  | .gt, order => order == .gt
  | .le, order => order != .gt
  | .ge, order => order != .lt

/-- Booleans know equality only. -/
def holdsOfBooleans : Comparison → Bool → Bool → Bool
  | .eq, left, right => left == right
  | .ne, left, right => left != right
  | _, _, _ => false

/-- Two numbers without an order are unequal and nothing else. -/
def holdsOfNumbers (operator : Comparison) (operands : Operands) : Bool :=
  match operands.order with
  | some order => operator.holds order
  | none => operator == .ne

/-- Whether two values satisfy the operator. -/
def holdsOf (operator : Comparison) (left right : Value) : Bool :=
  match left, right with
  | .string a, .string b => operator.holds (compare a b)
  | .boolean a, .boolean b => operator.holdsOfBooleans a b
  | _, _ =>
    match left.numeral?, right.numeral? with
    | some a, some b => operator.holdsOfNumbers (a.promote b)
    | _, _ => false

end Comparison

end Sift
