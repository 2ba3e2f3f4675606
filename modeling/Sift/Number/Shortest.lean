import Sift.Number.Binary

/-!
# The shortest decimal of a float

A float is written with the fewest digits that read back as the same float.  The reals that round
to a float form an interval around it, its cell; for one digit, two digits, and so on, the two
points of that decimal grid next to the float are tried, and the first grid with a point in the
cell gives the digits.  Of two points in the cell the nearer is taken, and the upper one at equal
distance.  All tests are exact, on integers.

A number is always written out positionally, whatever its size, and an integer has no decimal
point.
-/

namespace Sift.Number

/-- The number `digits · 10 ^ exponent`. -/
structure Decimal where
  digits : Nat
  exponent : Int
  deriving DecidableEq, Repr

/-! ## The cell of a float -/

/-- The reals that round to a positive float, as numerators over one denominator.  The ends belong
to the cell exactly when `closed`. -/
structure Cell where
  low : Nat
  value : Nat
  high : Nat
  scale : Nat
  closed : Bool
  deriving Repr

/-- The cell of `mantissa · 2 ^ exponent` reaches halfway to both neighbours; the lower neighbour
is half as far where the mantissa is least. -/
def Cell.of (mantissa : Nat) (exponent : Int) : Cell :=
  let factor := Nat.pow 2 (exponent - 2).toNat
  let below := if mantissa = leastMantissa ∧ exponent ≠ leastExponent then 1 else 2
  { low := (4 * mantissa - below) * factor
    value := 4 * mantissa * factor
    high := (4 * mantissa + 2) * factor
    scale := Nat.pow 2 (2 - exponent).toNat
    closed := mantissa % 2 == 0 }

/-- Whether `digits · 10 ^ exponent` rounds to the float of the cell. -/
def Cell.contains (cell : Cell) (decimal : Decimal) : Bool :=
  let point := decimal.digits * Nat.pow 10 decimal.exponent.toNat * cell.scale
  let factor := Nat.pow 10 (-decimal.exponent).toNat
  if cell.closed then cell.low * factor ≤ point && point ≤ cell.high * factor
  else cell.low * factor < point && point < cell.high * factor

/-- The number of decimal digits of a positive integer. -/
def decimalLength (n : Nat) : Nat :=
  (Nat.toDigits 10 n).length

/-- The position of the leading digit: the `k` with `10 ^ (k - 1) ≤ value < 10 ^ k`. -/
def Cell.magnitude (cell : Cell) : Int :=
  if cell.scale ≤ cell.value then decimalLength (cell.value / cell.scale)
  else 1 - decimalLength ((cell.scale - 1) / cell.value)

/-! ## Searching the grids -/

/-- The best point of the grid of step `10 ^ exponent` in the cell, if it has one. -/
def Cell.onGrid? (cell : Cell) (exponent : Int) : Option Decimal :=
  let numerator := cell.value * Nat.pow 10 (-exponent).toNat
  let denominator := cell.scale * Nat.pow 10 exponent.toNat
  let below : Decimal := ⟨numerator / denominator, exponent⟩
  let above : Decimal := ⟨numerator / denominator + 1, exponent⟩
  match cell.contains below, cell.contains above with
  | true, true => some (if 2 * (numerator % denominator) < denominator then below else above)
  | true, false => some below
  | false, true => some above
  | false, false => none

/-- The digits that always suffice for a 64-bit float. -/
def mostDigits : Nat := 17

/-- The point with the fewest digits in the cell. -/
def Cell.shortest (cell : Cell) : Decimal :=
  let grids := (List.range mostDigits).map fun (n : Nat) => cell.magnitude - (n + 1 : Nat)
  (grids.findSome? cell.onGrid?).getD ⟨0, 0⟩

/-! ## Writing it out -/

/-- The same number without trailing zeros in its digits. -/
def Decimal.trimmed (decimal : Decimal) : Decimal :=
  if trailing : decimal.digits ≠ 0 ∧ decimal.digits % 10 = 0 then
    Decimal.trimmed ⟨decimal.digits / 10, decimal.exponent + 1⟩
  else decimal
termination_by decimal.digits
decreasing_by exact Nat.div_lt_self (Nat.pos_of_ne_zero trailing.1) (by decide)

/-- A number written out positionally. -/
def Decimal.text (decimal : Decimal) : String :=
  let digits := Nat.toDigits 10 decimal.digits
  let places := (-decimal.exponent).toNat
  if places = 0 then String.ofList (digits ++ List.replicate decimal.exponent.toNat '0')
  else if places < digits.length then
    let whole := digits.length - places
    String.ofList (digits.take whole ++ '.' :: digits.drop whole)
  else String.ofList ('0' :: '.' :: List.replicate (places - digits.length) '0' ++ digits)

/-- A float as text. -/
def text (x : Float) : String :=
  match Shape.ofFloat x with
  | .notANumber => "NaN"
  | .infinite negative => if negative then "-inf" else "inf"
  | .finite negative mantissa exponent =>
    let magnitude :=
      if mantissa = 0 then "0" else (Cell.of mantissa exponent).shortest.trimmed.text
    if negative then "-" ++ magnitude else magnitude

end Sift.Number
