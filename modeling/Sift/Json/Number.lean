import Sift.Json.Basic
import Sift.Number.Decimal

/-!
# The numbers of a document

A number without point and exponent is an integer, of any size; the negative zero is not.  Every
number is also a float unless it is too large.  Its significand is gathered from as many digits as
fit into 64 bits, the digits behind them only counting as powers of ten, and is then multiplied or
divided by a power of ten.  Since that rounds twice, the result may be a neighbour of the nearest
float.
-/

namespace Sift.Json

/-- The value of a digit. -/
def digitValue (digit : Char) : Nat :=
  digit.toNat - '0'.toNat

/-- Append digits to a significand as long as it fits into 64 bits.  The result is the significand
and the digits that are left. -/
def gather (significand : Nat) : List Char → Nat × List Char
  | [] => (significand, [])
  | digit :: rest =>
    let longer := significand * 10 + digitValue digit
    if longer < Nat.pow 2 64 then gather longer rest else (significand, digit :: rest)

/-- A power of ten, up to the largest that is a float. -/
def power (exponent : Nat) : Float :=
  Float.ofScientific 1 false exponent

/-- Divide by a power of ten, in steps of the largest one. -/
def scaleDown (x : Float) (exponent : Nat) : Float :=
  if exponent ≤ 308 then x / power exponent
  else if x == 0 then x
  else scaleDown (x / power 308) (exponent - 308)
termination_by exponent

/-- Multiply by a power of ten, unless the result is too large. -/
def scaleUp? (x : Float) (exponent : Nat) : Option Float :=
  if exponent ≤ 308 then
    let scaled := x * power exponent
    if scaled.isInf then none else some scaled
  else if x == 0 then some x else none

/-- A significand scaled by a power of ten, unless the result is too large. -/
def scale? (significand : Nat) (exponent : Int) : Option Float :=
  let x := (UInt64.ofNat significand).toFloat
  if 0 ≤ exponent then scaleUp? x exponent.toNat else some (scaleDown x exponent.natAbs)

namespace Numeral

/-- The integer that a number is. -/
def integer? (numeral : Numeral) : Option Int :=
  if numeral.fraction.isEmpty && numeral.exponent.isNone then
    let magnitude := Number.valueOf numeral.whole
    if numeral.isNegative then
      if magnitude = 0 then none else some (-(magnitude : Int))
    else some magnitude
  else none

/-- The float that a number without its sign is.  An exponent of more than 31 bits makes it zero or
too large. -/
def magnitude? (numeral : Numeral) : Option Float :=
  let (whole, dropped) := gather 0 numeral.whole
  let (significand, left) := gather whole numeral.fraction
  let shift : Int := dropped.length - (numeral.fraction.length - left.length : Nat)
  match numeral.exponent with
  | none => scale? significand shift
  | some (isNegative, digits) =>
    let exponent := Number.valueOf digits
    if exponent < Nat.pow 2 31 then
      scale? significand (if isNegative then shift - exponent else shift + exponent)
    else if significand = 0 || isNegative then some 0 else none

/-- The float that a number is, unless it is too large. -/
def float? (numeral : Numeral) : Option Float :=
  numeral.magnitude?.map fun magnitude => if numeral.isNegative then -magnitude else magnitude

/-- The spelling of an integer. -/
def ofInt (n : Int) : Numeral :=
  ⟨n < 0, Nat.toDigits 10 n.natAbs, [], none⟩

end Numeral

end Sift.Json
