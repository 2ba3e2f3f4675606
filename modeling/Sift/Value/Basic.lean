import Sift.Number.Shortest
import Sift.Pattern.Basic
import Sift.Truth

/-!
# Values

A value is what a property holds and what an expression yields.  Null stands for a value that is
not known, so it has no kind; every other value has exactly one.  Numbers are 64-bit integers or
64-bit floats, and two numbers are brought together by promotion: they stay integers when both are
and become floats otherwise.
-/

namespace Sift

/-- The kind of a value that is not null. -/
inductive Kind where
  | boolean
  | integer
  | float
  | string
  | pattern
  deriving DecidableEq, Repr

/-- The name of a kind in messages. -/
def Kind.name : Kind → String
  | .boolean => "boolean"
  | .integer => "integer"
  | .float => "float"
  | .string => "string"
  | .pattern => "pattern"

/-- The kinds that take part in promotion. -/
def Kind.isNumeric : Kind → Bool
  | .integer | .float => true
  | .boolean | .string | .pattern => false

/-! ## Numbers -/

/-- A number before promotion. -/
inductive Numeral where
  | integer (n : Int64)
  | float (x : Float)

namespace Numeral

/-- The number as a float, rounded to the nearest one. -/
def toFloat : Numeral → Float
  | .integer n => Float.ofInt n.toInt
  | .float x => x

end Numeral

/-- Two numbers of one representation. -/
inductive Operands where
  | integers (left right : Int64)
  | floats (left right : Float)

/-- Promotion: integers stay integers only among themselves. -/
def Numeral.promote : Numeral → Numeral → Operands
  | .integer left, .integer right => .integers left right
  | left, right => .floats left.toFloat right.toFloat

/-- The order of two floats; a NaN is not ordered with anything. -/
def floatOrder (left right : Float) : Option Ordering :=
  if left < right then some .lt
  else if right < left then some .gt
  else if left == right then some .eq
  else none

/-- The order of two promoted numbers. -/
def Operands.order : Operands → Option Ordering
  | .integers left right => some (compare left right)
  | .floats left right => floatOrder left right

/-! ## Values -/

/-- A value of a property or an expression. -/
inductive Value where
  | null
  | boolean (b : Bool)
  | integer (n : Int64)
  | float (x : Float)
  | string (s : String)
  | pattern (p : Pattern)
  deriving Inhabited

namespace Value

/-- The kind of a value, none for null. -/
def kind : Value → Option Kind
  | .null => none
  | .boolean _ => some .boolean
  | .integer _ => some .integer
  | .float _ => some .float
  | .string _ => some .string
  | .pattern _ => some .pattern

/-- Whether a value is unknown. -/
def isNull : Value → Bool
  | .null => true
  | _ => false

/-- The value as a truth value, if it is a boolean. -/
def boolean? : Value → Option Bool
  | .boolean b => some b
  | _ => none

/-- The value as a text, if it is a string. -/
def string? : Value → Option String
  | .string s => some s
  | _ => none

/-- The value as a number, if it is one. -/
def numeral? : Value → Option Numeral
  | .integer n => some (.integer n)
  | .float x => some (.float x)
  | _ => none

/-- A truth value as a value; unknown is null. -/
def ofTruth : Truth → Value
  | none => .null
  | some b => .boolean b

/-- Sameness of values: of one kind and equal there.  An integer is never the same as a float, a
null is the same as a null, and a NaN is not the same as itself. -/
def same : Value → Value → Bool
  | .null, .null => true
  | .boolean a, .boolean b => a == b
  | .integer a, .integer b => a == b
  | .float a, .float b => a == b
  | .string a, .string b => a == b
  | .pattern a, .pattern b => a == b
  | _, _ => false

/-- A value as text; a pattern shows its own text. -/
def text : Value → String
  | .null => "NULL"
  | .boolean b => if b then "true" else "false"
  | .integer n => toString n.toInt
  | .float x => Number.text x
  | .string s => s
  | .pattern p => p.text

/-- Only a definite true selects a candidate. -/
def selects : Value → Bool
  | .boolean b => b
  | _ => false

end Value

end Sift
