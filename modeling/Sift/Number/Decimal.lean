import Sift.Number.Shortest

/-!
# Reading numbers

Two kinds of number text are read.  An integer is an optional sign and ASCII digits, and has to fit
into 64 bits.  A decimal is an optional sign, digits with at most one point among or beside them,
and optionally an exponent; it is read as the nearest float, however many digits it has, so every
decimal has a value.
-/

namespace Sift.Number

/-- The value of a run of digits. -/
def valueOf (digits : List Char) : Nat :=
  digits.foldl (fun value digit => value * 10 + (digit.toNat - '0'.toNat)) 0

/-- Split off a leading sign. -/
def splitSign : List Char → Bool × List Char
  | '-' :: rest => (true, rest)
  | '+' :: rest => (false, rest)
  | text => (false, text)

/-- Whether a text is a run of digits with at least one. -/
def isDigits (text : List Char) : Bool :=
  !text.isEmpty && text.all Char.isDigit

/-! ## Integers -/

/-- Read an integer of any size. -/
def readInt? (text : List Char) : Option Int :=
  let (negative, digits) := splitSign text
  if isDigits digits then some (if negative then -(valueOf digits : Int) else valueOf digits)
  else none

/-- An integer that fits into 64 bits. -/
def int64? (n : Int) : Option Int64 :=
  if Int64.minValue.toInt ≤ n ∧ n ≤ Int64.maxValue.toInt then some (Int64.ofInt n) else none

/-- Read a 64-bit integer. -/
def readInt64? (text : List Char) : Option Int64 :=
  (readInt? text).bind int64?

/-! ## Decimals -/

/-- The exponent after the mark `e`, or zero where the text ends before it. -/
def readExponent? : List Char → Option Int
  | [] => some 0
  | mark :: rest => if mark == 'e' || mark == 'E' then readInt? rest else none

/-- Read the digits around an optional point, and the exponent behind them. -/
def readUnsigned? (text : List Char) : Option Decimal :=
  let (whole, rest) := text.span Char.isDigit
  let (fraction, rest) := match rest with
    | '.' :: rest => rest.span Char.isDigit
    | rest => ([], rest)
  if whole.isEmpty && fraction.isEmpty then none
  else (readExponent? rest).map fun exponent =>
    ⟨valueOf (whole ++ fraction), exponent - fraction.length⟩

/-- The nearest float.  Beyond 400 digits before or behind the point nothing but infinity or zero
is near. -/
def Decimal.toFloat (decimal : Decimal) : Float :=
  if decimal.digits = 0 then 0.0
  else
    let leading := decimalLength decimal.digits + decimal.exponent
    if leading > 400 then 1.0 / 0.0
    else if leading < -400 then 0.0
    else Float.ofScientific decimal.digits (decimal.exponent < 0) decimal.exponent.natAbs

/-- Read a decimal as a float. -/
def readFloat? (text : List Char) : Option Float :=
  let (negative, magnitude) := splitSign text
  (readUnsigned? magnitude).map fun decimal =>
    if negative then -decimal.toFloat else decimal.toFloat

end Sift.Number
