import Sift.Proofs.Expression.Wrapping

/-!
# Quotients and remainders

Division and remainder of 64-bit integers have no result exactly if the divisor is zero.  A quotient
is truncated toward zero, and a remainder has the sign of the dividend and is smaller than the
divisor (`Truncation`).  One pair of operands has a quotient that is out of range, the least integer
and minus one; there the quotient wraps to the least integer itself.

Multiplying back and adding the remainder undoes the division for every dividend, also for this
pair: a quotient, a product and a sum may each wrap, and all three are exact modulo 2^64
(`div_mul_add_mod`).
-/

set_option autoImplicit false

namespace Sift

/-! ## Truncating division -/

/-- A quotient and a remainder that belong together: the remainder is smaller than the divisor, and
it is zero or has the sign of the dividend. -/
structure Truncation (dividend divisor quotient remainder : Int) : Prop where
  whole : quotient * divisor + remainder = dividend
  small : remainder.natAbs < divisor.natAbs
  sign : remainder = 0 ∨ remainder.sign = dividend.sign

theorem truncation_tdiv (dividend : Int) {divisor : Int} (nonzero : divisor ≠ 0) :
    Truncation dividend divisor (dividend.tdiv divisor) (dividend.tmod divisor) where
  whole := Int.tdiv_mul_add_tmod dividend divisor
  small := by
    rw [Int.natAbs_tmod]
    exact Nat.mod_lt _ (Int.natAbs_pos.2 nonzero)
  sign := by
    by_cases divides : divisor ∣ dividend
    · exact Or.inl (Int.tmod_eq_zero_of_dvd divides)
    · exact Or.inr (by rw [Int.sign_tmod, if_neg divides])

/-! ## 64-bit integers -/

/-- A quotient is truncated, and wraps where it is out of range. -/
theorem toInt_div_eq_ite (a b : Int64) :
    (a / b).toInt =
      if a = Int64.minValue ∧ b = -1 then -2 ^ 63 else a.toInt.tdiv b.toInt := by
  split
  · next overflows =>
    rw [overflows.1, overflows.2]
    decide
  · next inRange =>
    rcases not_and_or.1 inRange with notLeast | notMinusOne
    · exact a.toInt_div_of_ne_left b notLeast
    · exact a.toInt_div_of_ne_right b notMinusOne

/-- **Multiplying back and adding the remainder undoes a division.** -/
theorem div_mul_add_mod (a b : Int64) : a / b * b + a % b = a := by
  refine Int64.toInt_inj.1 ?_
  calc (a / b * b + a % b).toInt
      = (a.toInt.tdiv b.toInt * b.toInt + a.toInt.tmod b.toInt).bmod (2 ^ 64) := by
        rw [Int64.toInt_add, Int64.toInt_mul, Int64.toInt_div, Int64.toInt_mod,
          Int.bmod_mul_bmod, Int.bmod_add_bmod]
    _ = a.toInt.bmod (2 ^ 64) := by rw [Int.tdiv_mul_add_tmod]
    _ = a.toInt := Int64.toInt_ofInt.symm.trans (congrArg Int64.toInt a.ofInt_toInt)

/-! ## Division in terms -/

theorem arithmeticOutcome_divisionByZero {operator : Arithmetic} {left right : Int64}
    (none : operator.onIntegers left right = none) :
    arithmeticOutcome operator (.ok (.integer left)) (.ok (.integer right)) =
      .error .divisionByZero := by
  show calculate operator (.integer left) (.integer right) = _
  simp only [calculate, Value.numeral?, Arithmetic.onNumerals, Numeral.promote, none,
    Option.map_none]

namespace Term

/-- The dividend, put together again from its quotient and its remainder. -/
def recombined (left right : Term) : Term :=
  arithmetic .add (arithmetic .multiply (arithmetic .divide left right) right)
    (arithmetic .modulus left right)

section Dividing

variable [Engine] {context : Context} {left right : Term} {a b : Int64}

section Operands

variable (leftIs : left.evaluate context = .ok (.integer a))
  (rightIs : right.evaluate context = .ok (.integer b))
include leftIs rightIs

/-- An operator that has a result. -/
theorem evaluate_arithmetic_of_some (operator : Arithmetic) {value : Int64}
    (found : operator.onIntegers a b = some value) :
    (arithmetic operator left right).evaluate context = .ok (.integer value) := by
  rw [evaluate, leftIs, rightIs]
  exact arithmeticOutcome_integers found

/-- An operator that has none. -/
theorem evaluate_arithmetic_of_none (operator : Arithmetic)
    (none : operator.onIntegers a b = none) :
    (arithmetic operator left right).evaluate context = .error .divisionByZero := by
  rw [evaluate, leftIs, rightIs]
  exact arithmeticOutcome_divisionByZero none

end Operands

/-- **Division and remainder fail for the divisor zero alone, and fit together.**  Let two terms
evaluate to integers.  Their quotient and their remainder fail, as a division by zero, exactly if
the second integer is zero.  Otherwise both are integers: the truncated quotient, which is wrapped
if the least integer is divided by minus one, and the remainder that belongs to it.  The quotient
times the second term plus the remainder then evaluates to the first integer. -/
theorem evaluate_division (leftIs : left.evaluate context = .ok (.integer a))
    (rightIs : right.evaluate context = .ok (.integer b)) :
    ((arithmetic .divide left right).evaluate context = .error .divisionByZero ↔ b = 0) ∧
    ((arithmetic .modulus left right).evaluate context = .error .divisionByZero ↔ b = 0) ∧
    (b ≠ 0 → ∃ quotient remainder : Int64,
      (arithmetic .divide left right).evaluate context = .ok (.integer quotient) ∧
      (arithmetic .modulus left right).evaluate context = .ok (.integer remainder) ∧
      quotient.toInt =
        (if a = Int64.minValue ∧ b = -1 then -2 ^ 63 else a.toInt.tdiv b.toInt) ∧
      Truncation a.toInt b.toInt (a.toInt.tdiv b.toInt) remainder.toInt ∧
      (recombined left right).evaluate context = .ok (.integer a)) := by
  by_cases zero : b = 0
  · have divided := evaluate_arithmetic_of_none leftIs rightIs .divide (if_pos zero)
    have rest := evaluate_arithmetic_of_none leftIs rightIs .modulus (if_pos zero)
    exact ⟨iff_of_true divided zero, iff_of_true rest zero, fun nonzero => absurd zero nonzero⟩
  · have divided := evaluate_arithmetic_of_some leftIs rightIs .divide (if_neg zero)
    have rest := evaluate_arithmetic_of_some leftIs rightIs .modulus (if_neg zero)
    have product := evaluate_arithmetic_of_some divided rightIs .multiply rfl
    have sum := evaluate_arithmetic_of_some product rest .add rfl
    rw [div_mul_add_mod] at sum
    have nonzero : b.toInt ≠ 0 := fun same => zero (Int64.toInt_inj.1 same)
    refine ⟨iff_of_false ?_ zero, iff_of_false ?_ zero, fun _ => ⟨a / b, a % b, divided, rest,
      toInt_div_eq_ite a b, ?_, sum⟩⟩
    · rw [divided]
      exact nofun
    · rw [rest]
      exact nofun
    · rw [Int64.toInt_mod]
      exact truncation_tdiv a.toInt nonzero

end Dividing

/-- The least integer is divided by minus one in a tree that names both of them twice. -/
theorem evaluate_division_least :
    let context : Context := fun name =>
      if name = "a" then .ok (.integer Int64.minValue) else .ok (.integer (-1))
    ∃ expression,
      (Builder.after [(.property "a", []), (.property "b", []), (.arithmetic .divide, [0, 1]),
        (.property "b", []), (.arithmetic .multiply, [2, 3]), (.property "a", []),
        (.property "b", []), (.arithmetic .modulus, [5, 6]),
        (.arithmetic .add, [4, 7])]).build 8 = .ok expression ∧
      @evaluate Engine.direct context (.arithmetic .divide (.property "a") (.property "b")) =
        .ok (.integer Int64.minValue) ∧
      @evaluate Engine.direct context expression.term = .ok (.integer Int64.minValue) := by
  intro context
  obtain ⟨expression, built, same⟩ : ∃ expression,
      (Builder.after [(.property "a", []), (.property "b", []), (.arithmetic .divide, [0, 1]),
        (.property "b", []), (.arithmetic .multiply, [2, 3]), (.property "a", []),
        (.property "b", []), (.arithmetic .modulus, [5, 6]),
        (.arithmetic .add, [4, 7])]).build 8 = .ok expression ∧
      expression.term = recombined (.property "a") (.property "b") := ⟨_, rfl, rfl⟩
  have known := @evaluate_property Engine.direct context
  obtain ⟨-, -, results⟩ := @evaluate_division Engine.direct context (.property "a")
    (.property "b") Int64.minValue (-1) (known "a") (known "b")
  obtain ⟨quotient, remainder, divided, -, wrapped, -, recombines⟩ := results (by decide)
  obtain rfl : quotient = Int64.minValue := Int64.toInt_inj.1 wrapped
  exact ⟨expression, built, divided, same ▸ recombines⟩

end Term

end Sift
