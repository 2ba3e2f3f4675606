import Sift.Number.Binary
import Sift.Value.Basic

/-!
# Arithmetic

Integer arithmetic wraps at 64 bits and truncates its quotients; only a division or remainder by
zero has no result.  Float arithmetic always has one, and its remainder is exact with the sign of
the left operand.
-/

namespace Sift

/-- The arithmetic operators. -/
inductive Arithmetic where
  | add
  | subtract
  | multiply
  | divide
  | modulus
  deriving DecidableEq, Repr

namespace Arithmetic

/-- The operator as it is written. -/
def symbol : Arithmetic → String
  | .add => "+"
  | .subtract => "-"
  | .multiply => "*"
  | .divide => "/"
  | .modulus => "%"

/-- The operator on integers; none is a division by zero. -/
def onIntegers (operator : Arithmetic) (left right : Int64) : Option Int64 :=
  match operator with
  | .add => some (left + right)
  | .subtract => some (left - right)
  | .multiply => some (left * right)
  | .divide => if right = 0 then none else some (left / right)
  | .modulus => if right = 0 then none else some (left % right)

/-- The operator on floats. -/
def onFloats (operator : Arithmetic) (left right : Float) : Float :=
  match operator with
  | .add => left + right
  | .subtract => left - right
  | .multiply => left * right
  | .divide => left / right
  | .modulus => Number.remainder left right

/-- The operator on two numbers after promotion; none is a division by zero. -/
def onNumerals (operator : Arithmetic) (left right : Numeral) : Option Value :=
  match left.promote right with
  | .integers a b => (operator.onIntegers a b).map .integer
  | .floats a b => some (.float (operator.onFloats a b))

end Arithmetic

end Sift
