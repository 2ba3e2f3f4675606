import Sift.Pattern.Matching
import Sift.Proofs.Expression.Connectives
import Sift.Proofs.Value.Order

/-!
# Range tests and comparisons

A range test stands for two comparisons, of the low bound with the value and of the value with the
high bound.  It promotes its three operands together, though, and each comparison promotes its own
two.  Where the value and one bound are integers and the other bound is a float, the range test
compares the two integers as floats, and there integers that are too large for a float may change
their order or lose it.  Everywhere else a range test and its two comparisons agree
(`Term.evaluate_between_eq_iff`).
-/

set_option autoImplicit false

namespace Sift

/-! ## The comparison of a range test -/

theorem Comparison.le_holdsOfFloats (left right : Float) :
    Comparison.le.holdsOfNumbers (.floats left right) = decide (left ≤ right) := by
  rw [eq_comm, Bool.eq_iff_iff, decide_eq_true_iff, float_le_iff]
  simp only [Comparison.holdsOfNumbers, Operands.order, floatOrder_eq]
  rcases left.toModel.unpack.compare right.toModel.unpack with _ | _ | _ | _ <;>
    simp [Comparison.holds, Ordering.isLE]

theorem Comparison.le_holds_eq_isLE (order : Ordering) :
    Comparison.le.holds order = order.isLE := by
  cases order <;> rfl

theorem Comparison.le_holdsOfIntegers (left right : Int64) :
    Comparison.le.holdsOfNumbers (.integers left right) = decide (left ≤ right) := by
  rw [eq_comm, Bool.eq_iff_iff, decide_eq_true_iff]
  simp only [Comparison.holdsOfNumbers, Operands.order, Comparison.le_holds_eq_isLE]
  exact Std.isLE_compare.symm

theorem Comparison.le_holds_compare (left right : String) :
    Comparison.le.holds (compare left right) = decide (left ≤ right) := by
  rw [eq_comm, Bool.eq_iff_iff, decide_eq_true_iff, Comparison.le_holds_eq_isLE]
  exact (isLE_compareOfLessAndEq String.le_antisymm String.not_le String.le_total).symm

/-! ## Operands of a range test -/

/-- Three values that a range test compares: they are all numbers or all strings. -/
inductive Rangeable : Value → Value → Value → Prop
  | numbers (value low high : Numeral) : Rangeable value.value low.value high.value
  | strings (value low high : String) : Rangeable (.string value) (.string low) (.string high)

/-- None of three values that a range test compares is null. -/
theorem Rangeable.known {value low high : Value} (rangeable : Rangeable value low high) :
    value.isNull = false ∧ low.isNull = false ∧ high.isNull = false := by
  rcases rangeable with ⟨_ | _, _ | _, _ | _⟩ | _ <;> exact ⟨rfl, rfl, rfl⟩

/-- Two integers that are ordered otherwise once they are floats. -/
def OrderLost (left right : Int64) : Prop :=
  ¬ (Float.ofInt left.toInt ≤ Float.ofInt right.toInt ↔ left ≤ right)

/-- Operands of a range test that loses the order of two integers: they are the value and one
bound, the other bound is a float and it is met. -/
inductive OrderLostBetween : Value → Value → Value → Prop
  | low {value low : Int64} {high : Float} (lost : OrderLost low value)
      (met : Float.ofInt value.toInt ≤ high) :
      OrderLostBetween (.integer value) (.integer low) (.float high)
  | high {value high : Int64} {low : Float} (met : low ≤ Float.ofInt value.toInt)
      (lost : OrderLost value high) :
      OrderLostBetween (.integer value) (.float low) (.integer high)

theorem orderLostBetween_low_iff {v l : Int64} {h : Float} :
    OrderLostBetween (.integer v) (.integer l) (.float h) ↔
      Float.ofInt v.toInt ≤ h ∧ OrderLost l v :=
  ⟨fun | .low lost met => ⟨met, lost⟩, fun ⟨met, lost⟩ => .low lost met⟩

theorem orderLostBetween_high_iff {v h : Int64} {l : Float} :
    OrderLostBetween (.integer v) (.float l) (.integer h) ↔
      l ≤ Float.ofInt v.toInt ∧ OrderLost v h :=
  ⟨fun | .high met lost => ⟨met, lost⟩, fun ⟨met, lost⟩ => .high met lost⟩

/-- Two conjunctions with a common side differ where that side holds and the others differ. -/
theorem and_eq_and_iff {p q common : Prop} [Decidable p] [Decidable q] [Decidable common] :
    (decide common && decide p) = (decide common && decide q) ↔ ¬ (common ∧ ¬ (p ↔ q)) := by
  by_cases holds : common
  · simp [holds]
  · simp [holds]

theorem isBetween_strings (value low high : String) :
    isBetween (.string value) (.string low) (.string high) =
      .ok (Comparison.le.holdsOf (.string low) (.string value) &&
        Comparison.le.holdsOf (.string value) (.string high)) := by
  simp only [isBetween, Value.numeral?, Comparison.holdsOf, Comparison.le_holds_compare]

/-- What a range test and its two comparisons find of three numbers. -/
theorem isBetween_numbers (value low high : Numeral) :
    ∃ inRange : Bool,
      isBetween value.value low.value high.value = .ok inRange ∧
      (inRange = (Comparison.le.holdsOf low.value value.value &&
          Comparison.le.holdsOf value.value high.value) ↔
        ¬ OrderLostBetween value.value low.value high.value) := by
  simp only [Comparison.holdsOf_value]
  rcases value with v | v <;> rcases low with l | l <;> rcases high with h | h <;>
    refine ⟨_, rfl, ?_⟩ <;>
    simp only [Numeral.promote, Comparison.le_holdsOfFloats, Comparison.le_holdsOfIntegers]
  case integer.integer.float =>
    rw [Bool.and_comm, Bool.and_comm (decide (l ≤ v))]
    exact and_eq_and_iff.trans (not_congr orderLostBetween_low_iff.symm)
  case integer.float.integer =>
    exact and_eq_and_iff.trans (not_congr orderLostBetween_high_iff.symm)
  all_goals
    refine iff_of_true trivial fun lost => ?_
    cases lost

/-! ## Range tests -/

section

variable [Engine] {context : Context} {value low high : Term} {v l h : Value}

theorem Term.evaluate_between_of_known (valueIs : value.evaluate context = .ok v)
    (lowIs : low.evaluate context = .ok l) (highIs : high.evaluate context = .ok h)
    (rangeable : Rangeable v l h) :
    (Term.between value low high).evaluate context = (isBetween v l h).map .boolean := by
  rw [Term.evaluate, valueIs, lowIs, highIs]
  rcases rangeable with ⟨_ | _, _ | _, _ | _⟩ | _ <;> rfl

theorem Term.evaluate_compare_of_known (operator : Comparison)
    (lowIs : low.evaluate context = .ok l) (highIs : high.evaluate context = .ok h)
    (lowKnown : l.isNull = false) (highKnown : h.isNull = false) :
    (Term.compare operator low high).evaluate context = .ok (.boolean (operator.holdsOf l h)) := by
  rw [Term.evaluate, lowIs, highIs]
  simp [compareOutcome, bothKnown, Except.bind, lowKnown, highKnown, Except.map]

theorem Term.evaluate_and_of_booleans {first second : Bool}
    (lowIs : low.evaluate context = .ok (.boolean first))
    (highIs : high.evaluate context = .ok (.boolean second)) :
    (Term.connect .and low high).evaluate context = .ok (.boolean (first && second)) := by
  rw [Term.evaluate_connect_eq, lowIs, highIs]
  cases first <;> cases second <;> rfl

/-- **Range tests and comparisons.**  Let the value and the bounds of a range test be all numbers,
integers and floats in any mix, or all strings.  Then the range test gives a boolean, and so does
the conjunction of its two comparisons, and the two booleans are the same exactly if no order of two
integers is lost between them.  In particular they are the same for strings, for integers alone, for
floats alone, and wherever the value is a float or both bounds are. -/
theorem Term.evaluate_between_eq_iff (valueIs : value.evaluate context = .ok v)
    (lowIs : low.evaluate context = .ok l) (highIs : high.evaluate context = .ok h)
    (rangeable : Rangeable v l h) :
    ∃ inRange compared : Bool,
      (Term.between value low high).evaluate context = .ok (.boolean inRange) ∧
      (Term.connect .and (.compare .le low value) (.compare .le value high)).evaluate context =
        .ok (.boolean compared) ∧
      (inRange = compared ↔ ¬ OrderLostBetween v l h) := by
  obtain ⟨valueKnown, lowKnown, highKnown⟩ := rangeable.known
  have comparisons := Term.evaluate_and_of_booleans
    (Term.evaluate_compare_of_known .le lowIs valueIs lowKnown valueKnown)
    (Term.evaluate_compare_of_known .le valueIs highIs valueKnown highKnown)
  have between := Term.evaluate_between_of_known valueIs lowIs highIs rangeable
  rcases rangeable with ⟨value, low, high⟩ | ⟨value, low, high⟩
  · obtain ⟨inRange, found, agrees⟩ := isBetween_numbers value low high
    rw [found] at between
    exact ⟨inRange, _, between, comparisons, agrees⟩
  · rw [isBetween_strings] at between
    exact ⟨_, _, between, comparisons, iff_of_true rfl nofun⟩

end

theorem Term.evaluate_between_eq_iff_floats :
    let context : Context := fun name =>
      if name = "v" then .ok (.integer 5) else if name = "lo" then .ok (.float 1.5)
      else .ok (.integer 7)
    ∃ inRange compared : Bool,
      @Term.evaluate Engine.direct context
        (.between (.property "v") (.property "lo") (.property "hi")) = .ok (.boolean inRange) ∧
      @Term.evaluate Engine.direct context
        (.connect .and (.compare .le (.property "lo") (.property "v"))
          (.compare .le (.property "v") (.property "hi"))) = .ok (.boolean compared) ∧
      inRange = compared := by
  intro context
  have known := @Term.evaluate_property Engine.direct context
  obtain ⟨inRange, compared, between, comparisons, agree⟩ :=
    @Term.evaluate_between_eq_iff Engine.direct context (.property "v") (.property "lo")
      (.property "hi") _ _ _ (known "v") (known "lo") (known "hi")
      (.numbers (.integer 5) (.float 1.5) (.integer 7))
  refine ⟨inRange, compared, between, comparisons, agree.2 ?_⟩
  intro kept
  exact (orderLostBetween_high_iff.1 kept).2 (by decide)

/-- The integers `2 ^ 53` and `2 ^ 53 + 1` are the same float, so the smaller one passes for one
that reaches the greater. -/
theorem Term.evaluate_between_ne_comparisons :
    let context : Context := fun name =>
      if name = "v" then .ok (.integer 9007199254740992)
      else if name = "lo" then .ok (.integer 9007199254740993)
      else .ok (.float 1e17)
    @Term.evaluate Engine.direct context
        (.between (.property "v") (.property "lo") (.property "hi")) = .ok (.boolean true) ∧
      @Term.evaluate Engine.direct context
        (.connect .and (.compare .le (.property "lo") (.property "v"))
          (.compare .le (.property "v") (.property "hi"))) = .ok (.boolean false) := by
  intro context
  have known := @Term.evaluate_property Engine.direct context
  let : Engine := Engine.direct
  constructor
  · exact (Term.evaluate_between_of_known (known "v") (known "lo") (known "hi")
      (.numbers (.integer _) (.integer _) (.float _))).trans rfl
  · exact Term.evaluate_and_of_booleans
      (Term.evaluate_compare_of_known .le (known "lo") (known "v") rfl rfl)
      (Term.evaluate_compare_of_known .le (known "v") (known "hi") rfl rfl)

end Sift
