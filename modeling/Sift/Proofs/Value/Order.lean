import Mathlib
import Sift.Value.Comparison

/-!
# One order behind six comparisons

A comparison of two values is a test on their order, where they have one.  Turning the operands
around turns their order around, so each comparison holds exactly if its mirror image holds of the
operands the other way around.  Strings always have an order.  Two numbers have one unless one of
them is a NaN, and an integer never becomes a NaN where it is compared as a float
(`isNaN_ofInt`), so only floats can be at fault.  Two values that have an order are smaller, equal
or greater, and the other three comparisons follow from these (`Comparison.holdsOf_laws`).

The order of floats is that of what their bits stand for, infinities, zeros and finite numbers with
a sign, a mantissa and an exponent (`floatOrder_eq`).
-/

set_option autoImplicit false

namespace Sift

/-! ## The order of floats -/

open Float.Model

/-- Turning the operands around turns their order around. -/
theorem unpacked_compare_swap (left right : UnpackedFloat) :
    right.compare left = (left.compare right).map Ordering.swap := by
  have magnitudes (m m' : Nat) (e e' : Int) :
      (compare e' e).then (compare m' m) = ((compare e e').then (compare m m')).swap := by
    rw [Ordering.swap_then, ← Std.OrientedCmp.eq_swap, ← Std.OrientedCmp.eq_swap]
  rcases left with (_ | _) | _ | _ | ⟨_ | _, _, _, _⟩ <;>
    rcases right with (_ | _) | _ | _ | ⟨_ | _, _, _, _⟩ <;>
    first
    | rfl
    | exact congrArg some (magnitudes ..)
    | exact congrArg (fun order => some order.swap) (magnitudes ..)

theorem unpacked_compare_eq_none_iff {left right : UnpackedFloat} :
    left.compare right = none ↔ left.isNaN = true ∨ right.isNaN = true := by
  rcases left with (_ | _) | _ | _ | ⟨_ | _, _, _, _⟩ <;>
    rcases right with (_ | _) | _ | _ | ⟨_ | _, _, _, _⟩ <;>
    simp [UnpackedFloat.compare, UnpackedFloat.isNaN]

theorem float_le_iff {left right : Float} :
    left ≤ right ↔ (left.toModel.unpack.compare right.toModel.unpack).any Ordering.isLE = true := by
  show Float.le left right = true ↔ _
  rw [Float.le, decide_eq_true_iff]
  rfl

theorem float_lt_iff {left right : Float} :
    left < right ↔ left.toModel.unpack.compare right.toModel.unpack = some .lt := by
  show Float.lt left right = true ↔ _
  rw [Float.lt, decide_eq_true_iff, ← beq_iff_eq]
  rfl

theorem float_beq_iff {left right : Float} :
    (left == right) = true ↔ left.toModel.unpack.compare right.toModel.unpack = some .eq := by
  show (left.toModel.unpack.compare right.toModel.unpack == some .eq) = true ↔ _
  exact beq_iff_eq

theorem floatOrder_eq (left right : Float) :
    floatOrder left right = left.toModel.unpack.compare right.toModel.unpack := by
  unfold floatOrder
  simp only [float_lt_iff, float_beq_iff, unpacked_compare_swap left.toModel.unpack]
  rcases left.toModel.unpack.compare right.toModel.unpack with _ | _ | _ | _ <;> rfl

theorem floatOrder_swap (left right : Float) :
    floatOrder right left = (floatOrder left right).map Ordering.swap := by
  rw [floatOrder_eq, floatOrder_eq, unpacked_compare_swap]

/-- Only a NaN has no order. -/
theorem floatOrder_eq_none_iff {left right : Float} :
    floatOrder left right = none ↔ left.isNaN = true ∨ right.isNaN = true := by
  rw [floatOrder_eq]
  exact unpacked_compare_eq_none_iff

/-! ## Integers as floats -/

theorem isNaN_unpack_iff {bits : BitVec Format.binary64.numBits} :
    (UnpackedFloat.unpack Format.binary64 bits).isNaN = true ↔
      UnpackedFloat.unpackExponent bits = -1#11 ∧ UnpackedFloat.unpackMantissa bits ≠ 0#52 := by
  rw [UnpackedFloat.unpack]
  dsimp only
  split_ifs with full empty least zero <;> simp_all [UnpackedFloat.isNaN]

/-- What is packed is no NaN unless it was one: an exponent that does not overflow is below the one
that is kept for infinities and NaNs. -/
theorem isNaN_unpack_pack {unpacked : UnpackedFloat} (number : unpacked.isNaN = false) :
    (pack unpacked).unpack.isNaN = false := by
  refine Bool.eq_false_iff.2 (mt isNaN_unpack_iff.1 ?_)
  show ¬ (UnpackedFloat.unpackExponent (UnpackedFloat.pack Format.binary64 unpacked) = -1#11 ∧
    UnpackedFloat.unpackMantissa (UnpackedFloat.pack Format.binary64 unpacked) ≠ 0#52)
  fun_cases UnpackedFloat.pack Format.binary64 unpacked with
  | case1 => cases number
  | case2 | case3 | case4 =>
    simp [UnpackedFloat.packedInfinity, UnpackedFloat.packedZero,
      UnpackedFloat.unpackMantissa_packComponents]
  | case5 sign mantissa exponent _ _ biased inside =>
    rw [UnpackedFloat.unpackExponent_packComponents]
    rintro ⟨full, -⟩
    have inside : ¬ 2048 ≤ biased + 1 := inside
    have full : biased % 2048 = 2047 := congrArg BitVec.toNat full
    omega
  | case6 =>
    rw [UnpackedFloat.unpackExponent_packComponents]
    rintro ⟨full, -⟩
    exact absurd full (by decide)

theorem isNaN_roundWithAccuracy (format : Format) (sign : UnpackedFloat.Sign) (mantissa : Nat)
    (exponent : Int) (accuracy : UnpackedFloat.Accuracy) :
    (UnpackedFloat.roundWithAccuracy format sign mantissa exponent accuracy).isNaN = false := by
  rw [UnpackedFloat.roundWithAccuracy]
  dsimp only
  split <;> rfl

theorem isNaN_normalize (format : Format) (mantissa exponent : Int) (sign : UnpackedFloat.Sign) :
    (UnpackedFloat.normalize format mantissa exponent sign).isNaN = false := by
  rw [UnpackedFloat.normalize]
  cases compare mantissa 0 with
  | eq => rfl
  | lt | gt => exact isNaN_roundWithAccuracy ..

theorem isNaN_mul_finite {left : UnpackedFloat} (number : left.isNaN = false)
    (sign : UnpackedFloat.Sign) (mantissa : Nat) (exponent : Int) (positive : 0 < mantissa) :
    (UnpackedFloat.mul Format.binary64 left (.finite sign mantissa exponent positive)).isNaN =
      false := by
  cases left with
  | notANumber => cases number
  | infinity | zero => rfl
  | finite => exact isNaN_roundWithAccuracy ..

theorem isNaN_ofScientific (format : Format) (mantissa : Nat) (exponent : Int) :
    (UnpackedFloat.ofScientific format mantissa exponent).isNaN = false := by
  rw [UnpackedFloat.ofScientific]
  split_ifs
  · rfl
  · rfl
  · rfl
  · exact isNaN_roundWithAccuracy ..
  · exact isNaN_roundWithAccuracy ..

/-- A natural number below `2 ^ 53` is packed as it is and then multiplied by one; a greater one is
rounded. -/
theorem isNaN_ofNat (n : Nat) : (Float.ofNat n).isNaN = false := by
  show (Float.ofScientific n false 0).isNaN = false
  rw [Float.ofScientific]
  by_cases small : n < 2 ^ 53 ∧ 0 ≤ 22
  · obtain ⟨sign, mantissa, exponent, positive, one⟩ :
        ∃ (sign : UnpackedFloat.Sign) (mantissa : Nat) (exponent : Int) (positive : 0 < mantissa),
          Float.exactlyRepresentablePowersOfTen[0].toModel.unpack =
            .finite sign mantissa exponent positive := ⟨_, _, _, _, rfl⟩
    rw [dif_pos small]
    refine isNaN_unpack_pack ?_
    show (UnpackedFloat.mul Format.binary64 n.toUInt64.toFloat.toModel.unpack
      Float.exactlyRepresentablePowersOfTen[0].toModel.unpack).isNaN = false
    rw [one]
    exact isNaN_mul_finite (isNaN_unpack_pack (isNaN_normalize ..)) ..
  · rw [dif_neg small]
    exact isNaN_unpack_pack (isNaN_ofScientific ..)

theorem isNaN_neg {x : Float} (number : x.isNaN = false) : (-x).isNaN = false := by
  have number : x.toModel.unpack.isNaN = false := number
  refine isNaN_unpack_pack ?_
  cases unpacked : x.toModel.unpack with
  | notANumber =>
    rw [unpacked] at number
    cases number
  | _ => rfl

/-- **No integer becomes a NaN.** -/
theorem isNaN_ofInt (n : Int) : (Float.ofInt n).isNaN = false := by
  cases n with
  | ofNat n => exact isNaN_ofNat n
  | negSucc n => exact isNaN_neg (isNaN_ofNat n.succ)

/-! ## The order of numbers -/

namespace Numeral

/-- A number as a value. -/
def value : Numeral → Value
  | .integer n => .integer n
  | .float x => .float x

/-- Whether a number is a NaN, which no integer is. -/
def isNaN : Numeral → Bool
  | .integer _ => false
  | .float x => x.isNaN

theorem isNaN_toFloat (number : Numeral) : number.toFloat.isNaN = number.isNaN := by
  cases number with
  | integer n => exact isNaN_ofInt n.toInt
  | float x => rfl

/-- Two numbers are ordered as integers or as floats. -/
theorem promote_cases (left right : Numeral) :
    (∃ a b, left = .integer a ∧ right = .integer b) ∨
      (left.promote right = .floats left.toFloat right.toFloat ∧
        right.promote left = .floats right.toFloat left.toFloat) := by
  cases left with
  | integer a =>
    cases right with
    | integer b => exact .inl ⟨a, b, rfl, rfl⟩
    | float y => exact .inr ⟨rfl, rfl⟩
  | float x => cases right <;> exact .inr ⟨rfl, rfl⟩

theorem order_promote_swap (left right : Numeral) :
    (right.promote left).order = (left.promote right).order.map Ordering.swap := by
  rcases promote_cases left right with ⟨a, b, rfl, rfl⟩ | ⟨floats, floats'⟩
  · exact congrArg some Std.OrientedCmp.eq_swap
  · rw [floats, floats']
    exact floatOrder_swap ..

theorem order_promote_eq_none_iff {left right : Numeral} :
    (left.promote right).order = none ↔ left.isNaN = true ∨ right.isNaN = true := by
  rcases promote_cases left right with ⟨a, b, rfl, rfl⟩ | ⟨floats, -⟩
  · simp [promote, Operands.order, isNaN]
  · rw [floats, ← left.isNaN_toFloat, ← right.isNaN_toFloat]
    exact floatOrder_eq_none_iff

end Numeral

/-! ## Comparable values -/

/-- The pairs of values of which some comparison may hold. -/
inductive Value.Comparable : Value → Value → Prop where
  | strings (left right : String) : Comparable (.string left) (.string right)
  | numbers (left right : Numeral) : Comparable left.value right.value
  | booleans (left right : Bool) : Comparable (.boolean left) (.boolean right)

/-- The pairs of values that have an order. -/
inductive Value.Ordered : Value → Value → Prop where
  | strings (left right : String) : Ordered (.string left) (.string right)
  | numbers (left right : Numeral) (leftIs : left.isNaN = false) (rightIs : right.isNaN = false) :
      Ordered left.value right.value

theorem Value.Comparable.symm {left right : Value} (comparable : left.Comparable right) :
    right.Comparable left := by
  cases comparable with
  | strings => exact .strings ..
  | numbers => exact .numbers ..
  | booleans => exact .booleans ..

/-- A number is compared with numbers only. -/
theorem Value.Comparable.isSome_numeral?_eq {left right : Value}
    (comparable : left.Comparable right) :
    left.numeral?.isSome = right.numeral?.isSome := by
  cases comparable with
  | numbers left right => cases left <;> cases right <;> rfl
  | _ => rfl

theorem Value.eq_value_of_numeral? {value : Value} {number : Numeral}
    (found : value.numeral? = some number) : value = number.value := by
  cases value with
  | integer n | float x =>
    obtain rfl := Option.some.inj found
    rfl
  | _ => cases found

namespace Comparison

theorem holdsOf_value (operator : Comparison) (left right : Numeral) :
    operator.holdsOf left.value right.value = operator.holdsOfNumbers (left.promote right) := by
  cases left <;> cases right <;> rfl

/-- No comparison holds of other values. -/
theorem holdsOf_of_not_comparable {left right : Value} (alien : ¬ left.Comparable right)
    (operator : Comparison) : operator.holdsOf left right = false := by
  unfold holdsOf
  split
  · exact absurd (.strings ..) alien
  · exact absurd (.booleans ..) alien
  · split
    · next isLeft isRight =>
      rw [Value.eq_value_of_numeral? isLeft, Value.eq_value_of_numeral? isRight] at alien
      exact absurd (.numbers ..) alien
    · rfl

/-- Values that have an order are compared by it. -/
theorem exists_order_of_ordered {left right : Value} (ordered : left.Ordered right) :
    ∃ order, ∀ operator : Comparison, operator.holdsOf left right = operator.holds order := by
  cases ordered with
  | strings left right => exact ⟨compare left right, fun _ => rfl⟩
  | numbers left right leftIs rightIs =>
    cases found : (left.promote right).order with
    | none =>
      rw [Numeral.order_promote_eq_none_iff, leftIs, rightIs] at found
      simp at found
    | some order =>
      refine ⟨order, fun operator => ?_⟩
      rw [holdsOf_value, holdsOfNumbers, found]

/-- A NaN is unequal to every number, and that is all. -/
theorem holdsOf_of_isNaN {left right : Numeral} (nan : left.isNaN = true ∨ right.isNaN = true)
    (operator : Comparison) : operator.holdsOf left.value right.value = (operator == .ne) := by
  rw [holdsOf_value, holdsOfNumbers, Numeral.order_promote_eq_none_iff.2 nan]

/-! ## Mirrored comparisons -/

/-- The comparison that holds of two operands where another one holds of them the other way
around. -/
def mirrored : Comparison → Comparison
  | eq => eq
  | ne => ne
  | lt => gt
  | gt => lt
  | le => ge
  | ge => le

theorem mirrored_holds_swap (operator : Comparison) (order : Ordering) :
    operator.mirrored.holds order.swap = operator.holds order := by
  cases operator <;> cases order <;> rfl

theorem mirrored_holdsOfBooleans (operator : Comparison) (left right : Bool) :
    operator.mirrored.holdsOfBooleans right left = operator.holdsOfBooleans left right := by
  cases operator <;> cases left <;> cases right <;> rfl

theorem mirrored_holdsOfNumbers (operator : Comparison) (left right : Numeral) :
    operator.mirrored.holdsOfNumbers (right.promote left) =
      operator.holdsOfNumbers (left.promote right) := by
  rw [holdsOfNumbers, holdsOfNumbers, left.order_promote_swap right]
  cases (left.promote right).order with
  | none => cases operator <;> rfl
  | some order => exact operator.mirrored_holds_swap order

/-- **A comparison holds exactly if its mirror image holds the other way around.** -/
theorem mirrored_holdsOf (operator : Comparison) (left right : Value) :
    operator.mirrored.holdsOf right left = operator.holdsOf left right := by
  by_cases comparable : left.Comparable right
  · cases comparable with
    | strings left right =>
      have turned : compare right left = (compare left right).swap := Std.OrientedCmp.eq_swap
      show operator.mirrored.holds (compare right left) = operator.holds (compare left right)
      rw [turned]
      exact operator.mirrored_holds_swap _
    | numbers left right =>
      rw [holdsOf_value, holdsOf_value]
      exact operator.mirrored_holdsOfNumbers left right
    | booleans left right => exact operator.mirrored_holdsOfBooleans left right
  · rw [holdsOf_of_not_comparable comparable,
      holdsOf_of_not_comparable (mt Value.Comparable.symm comparable)]

/-! ## The six comparisons together -/

/-- The one of `=`, `<` and `>` that holds of an order. -/
def ofOrder : Ordering → Comparison
  | .eq => eq
  | .lt => lt
  | .gt => gt

theorem holds_iff_eq_ofOrder (order : Ordering) :
    ∀ operator ∈ [eq, lt, gt], operator.holds order = true ↔ operator = ofOrder order := by
  cases order <;> decide

theorem ofOrder_mem (order : Ordering) : ofOrder order ∈ [eq, lt, gt] := by
  cases order <;> decide

/-- **The six comparisons fit together.**  Each holds exactly if its mirror image holds of the
operands the other way around.  Of two strings, or two numbers none of which is a NaN, exactly one
of `=`, `<` and `>` holds, and these decide the other three.  Of two numbers of which one is a NaN
only `<>` holds.  Two booleans are equal or unequal and nothing else, and no comparison holds of any
other values. -/
theorem holdsOf_laws :
    (∀ (operator : Comparison) (left right : Value),
      operator.holdsOf left right = operator.mirrored.holdsOf right left) ∧
    (∀ left right : Value, left.Ordered right →
      (∃! operator, operator ∈ [eq, lt, gt] ∧ operator.holdsOf left right = true) ∧
      le.holdsOf left right = (lt.holdsOf left right || eq.holdsOf left right) ∧
      ge.holdsOf left right = (gt.holdsOf left right || eq.holdsOf left right) ∧
      ne.holdsOf left right = !eq.holdsOf left right) ∧
    (∀ left right : Numeral, left.isNaN = true ∨ right.isNaN = true →
      ∀ operator : Comparison, operator.holdsOf left.value right.value = true ↔ operator = ne) ∧
    (∀ (left right : Bool) (operator : Comparison),
      operator.holdsOf (.boolean left) (.boolean right) = true ↔
        operator = eq ∧ left = right ∨ operator = ne ∧ left ≠ right) ∧
    ∀ left right : Value, ¬ left.Comparable right →
      ∀ operator : Comparison, operator.holdsOf left right = false := by
  refine ⟨fun operator left right => (operator.mirrored_holdsOf left right).symm,
    fun left right ordered => ?_, fun left right nan operator => ?_,
    fun left right operator => ?_, fun left right => holdsOf_of_not_comparable⟩
  · obtain ⟨order, byOrder⟩ := exists_order_of_ordered ordered
    simp only [byOrder]
    refine ⟨⟨ofOrder order, ⟨ofOrder_mem order, ?_⟩, ?_⟩, ?_⟩
    · exact (holds_iff_eq_ofOrder order _ (ofOrder_mem order)).2 rfl
    · exact fun operator ⟨strict, held⟩ => (holds_iff_eq_ofOrder order operator strict).1 held
    · cases order <;> decide
  · rw [holdsOf_of_isNaN nan, beq_iff_eq]
  · show operator.holdsOfBooleans left right = true ↔ _
    cases operator <;> simp [holdsOfBooleans]

/-- The integer `2 ^ 53 + 1` and the float `2 ^ 53` have an order although they are compared after
rounding, a NaN has none, and a truth value is not compared with a number. -/
theorem holdsOf_laws_mixed :
    (∃! operator, operator ∈ [eq, lt, gt] ∧
      operator.holdsOf (.integer 9007199254740993) (.float 9007199254740992) = true) ∧
    (∀ operator : Comparison,
      operator.holdsOf (.float (0 / 0)) (.integer 1) = true ↔ operator = ne) ∧
    ∀ operator : Comparison, operator.holdsOf (.boolean true) (.integer 1) = false := by
  obtain ⟨-, ordered, ofNaN, -, others⟩ := holdsOf_laws
  refine ⟨?_, ?_, ?_⟩
  · exact (ordered _ _ (.numbers (.integer 9007199254740993) (.float 9007199254740992) rfl
      (isNaN_ofNat _))).1
  · exact ofNaN (.float (0 / 0)) (.integer 1) (.inl rfl)
  · exact others _ _ fun comparable => absurd comparable.isSome_numeral?_eq (by decide)

end Comparison

end Sift
