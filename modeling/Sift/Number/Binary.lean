/-!
# Floats taken apart

A finite 64-bit float is a signed integer times a power of two.  `Shape` is that reading of its
bits; printing a float and taking an exact remainder both work on the two integers and never on
rounded arithmetic.
-/

namespace Sift.Number

/-- What the bits of a float mean.  The value of `finite` is `± mantissa · 2 ^ exponent`. -/
inductive Shape where
  | notANumber
  | infinite (negative : Bool)
  | finite (negative : Bool) (mantissa : Nat) (exponent : Int)
  deriving DecidableEq, Repr

/-- The exponent of the smallest positive float. -/
def leastExponent : Int := -1074

/-- The least mantissa of a float whose exponent is not the least one. -/
def leastMantissa : Nat := Nat.pow 2 52

/-- Read the sign, the eleven exponent bits and the fraction. -/
def Shape.ofFloat (x : Float) : Shape :=
  let bits := x.toBits.toNat
  let negative := bits / Nat.pow 2 63 == 1
  let biased : Nat := bits / Nat.pow 2 52 % Nat.pow 2 11
  let fraction := bits % Nat.pow 2 52
  if biased = 2047 then
    if fraction = 0 then .infinite negative else .notANumber
  else if biased = 0 then .finite negative fraction leastExponent
  else .finite negative (leastMantissa + fraction) (biased - 1075 : Int)

/-! ## Exact remainder -/

/-- The remainder of `left` divided by `right`, with the sign of `left`.  Both operands are brought
to the smaller of their exponents, so the remainder is one of integers; it is below both mantissas
of that scale and therefore a float itself. -/
def remainder (left right : Float) : Float :=
  match Shape.ofFloat left, Shape.ofFloat right with
  | .notANumber, _ => left
  | _, .notANumber => right
  | .infinite _, _ => 0.0 / 0.0
  | .finite .., .infinite _ => left
  | .finite negative mantissa exponent, .finite _ mantissa' exponent' =>
    if mantissa' = 0 then 0.0 / 0.0
    else
      let least := min exponent exponent'
      let rest :=
        (mantissa * Nat.pow 2 (exponent - least).toNat) %
          (mantissa' * Nat.pow 2 (exponent' - least).toNat)
      let magnitude := (Float.ofNat rest).scaleB least
      if negative then -magnitude else magnitude

end Sift.Number
