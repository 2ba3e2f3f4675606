import Sift.Value.Basic

/-!
# Property types

A property of an object has a declared type: one of five scalars, a type that the program declares
itself, or such a type with null as one more legal value, to any depth.  The type decides in which
form the property is held (`Carrier`), which value the form stands for, and which values can be
converted back.  Among the scalars an integer is accepted where a float is declared, and rounded;
nothing else changes its kind, and a 32-bit integer has to fit.

A type that a program declares itself (`CustomType`) says all this on its own.  What is asked of it
is that held forms stand for values of its kind, and that these values are accepted again.
-/

namespace Sift

/-- The scalar types of properties. -/
inductive Scalar where
  | boolean
  | int32
  | int64
  | float64
  | text
  deriving DecidableEq, Repr

namespace Scalar

/-- The form in which a property of this type is held. -/
abbrev Carrier : Scalar → Type
  | .boolean => Bool
  | .int32 => Int32
  | .int64 => Int64
  | .float64 => Float
  | .text => String

/-- The kind of the values of this type. -/
def kind : Scalar → Kind
  | .boolean => .boolean
  | .int32 | .int64 => .integer
  | .float64 => .float
  | .text => .string

/-- The value that a held form stands for. -/
def toValue : (scalar : Scalar) → scalar.Carrier → Value
  | .boolean, b => .boolean b
  | .int32, n => .integer n.toInt64
  | .int64, n => .integer n
  | .float64, x => .float x
  | .text, s => .string s

/-- A 64-bit integer in 32 bits, if it fits. -/
def int32? (n : Int64) : Option Int32 :=
  if n.toInt32.toInt64 = n then some n.toInt32 else none

/-- Convert a value, if it is of this type. -/
def ofValue? : (scalar : Scalar) → Value → Option scalar.Carrier
  | .boolean, .boolean b => some b
  | .int32, .integer n => int32? n
  | .int64, .integer n => some n
  | .float64, value => value.numeral?.map Numeral.toFloat
  | .text, .string s => some s
  | _, _ => none

end Scalar

/-- A type of properties that a program declares itself.  A held form stands for a value of the
kind, or for null if that is legal, and this value is accepted again and stands for the same. -/
structure CustomType where
  Carrier : Type
  kind : Kind
  isNullable : Bool
  toValue : Carrier → Value
  ofValue? : Value → Option Carrier
  kind_toValue : ∀ held, (toValue held).kind = some kind ∨ isNullable = true ∧ toValue held = .null
  accepts_toValue : ∀ held, (ofValue? (toValue held)).map toValue = some (toValue held)

/-- The types of properties. -/
inductive PropertyType : Type 1 where
  | required (scalar : Scalar)
  | custom (type : CustomType)
  | optional (inner : PropertyType)

namespace PropertyType

/-- Whether null is a legal value. -/
def isNullable : PropertyType → Bool
  | .required _ => false
  | .custom type => type.isNullable
  | .optional _ => true

/-- The kind of the values that are not null. -/
def kind : PropertyType → Kind
  | .required scalar => scalar.kind
  | .custom type => type.kind
  | .optional inner => inner.kind

/-- The form in which a property of this type is held. -/
abbrev Carrier : PropertyType → Type
  | .required scalar => scalar.Carrier
  | .custom type => type.Carrier
  | .optional inner => Option inner.Carrier

/-- The value that a held form stands for. -/
def toValue : (type : PropertyType) → type.Carrier → Value
  | .required scalar, held => scalar.toValue held
  | .custom type, held => type.toValue held
  | .optional inner, held => held.elim .null inner.toValue

/-- Convert a value, if it is of this type. -/
def ofValue? : (type : PropertyType) → Value → Option type.Carrier
  | .required scalar, value => scalar.ofValue? value
  | .custom type, value => type.ofValue? value
  | .optional _, .null => some none
  | .optional inner, value => (inner.ofValue? value).map some

/-- Why a value is not accepted for a property. -/
inductive Refusal where
  | null
  | mismatch (expected actual : Kind)
  deriving DecidableEq, Repr

/-- Convert a value or say why it is not accepted. -/
def accept (type : PropertyType) (value : Value) : Except Refusal type.Carrier :=
  match type.ofValue? value, value.kind with
  | some held, _ => .ok held
  | none, none => .error .null
  | none, some actual => .error (.mismatch type.kind actual)

end PropertyType

end Sift
