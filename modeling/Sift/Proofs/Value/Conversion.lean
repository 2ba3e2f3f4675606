import Sift.Value.Property

/-!
# Values that a property accepts

A property accepts the values of its declared type, and null if that is legal.  Two rules for
scalars are not the identity on a kind: a 32-bit integer has to lie in its range, and an integer
that is given for a float is rounded.  Null is accepted before a type with null as one more value
looks at anything else, and types that a program declares itself follow their own rules.
`PropertyType.Converts` lists the rules; `PropertyType.converts_iff` says that they are those of the
program.
-/

set_option autoImplicit false

namespace Sift

/-- Which values a scalar type accepts, and what it makes of them. -/
inductive Scalar.Converts : Scalar → Value → Value → Prop where
  | boolean (b : Bool) : Scalar.Converts .boolean (.boolean b) (.boolean b)
  | int32 (n : Int64) (low : -2147483648 ≤ n.toInt) (high : n.toInt < 2147483648) :
      Scalar.Converts .int32 (.integer n) (.integer n)
  | int64 (n : Int64) : Scalar.Converts .int64 (.integer n) (.integer n)
  | float64 (x : Float) : Scalar.Converts .float64 (.float x) (.float x)
  | rounded (n : Int64) : Scalar.Converts .float64 (.integer n) (.float (Float.ofInt n.toInt))
  | text (s : String) : Scalar.Converts .text (.string s) (.string s)

/-- Which values a property type accepts, and what it makes of them. -/
inductive PropertyType.Converts : PropertyType → Value → Value → Prop where
  | required {scalar : Scalar} {value converted : Value}
      (converts : scalar.Converts value converted) :
      PropertyType.Converts (.required scalar) value converted
  | custom {type : CustomType} {value : Value} {held : type.Carrier}
      (accepts : type.ofValue? value = some held) :
      PropertyType.Converts (.custom type) value (type.toValue held)
  | optional {inner : PropertyType} {value converted : Value} (notNull : value ≠ .null)
      (converts : PropertyType.Converts inner value converted) :
      PropertyType.Converts (.optional inner) value converted
  | null (inner : PropertyType) : PropertyType.Converts (.optional inner) .null .null

/-- A 64-bit integer fits if it is in the range of 32 bits, and keeps its value then. -/
theorem Scalar.int32?_eq_some_iff {n : Int64} {held : Int32} :
    int32? n = some held ↔ held.toInt64 = n := by
  rw [int32?, Option.ite_none_right_eq_some, Option.some.injEq]
  constructor
  · rintro ⟨fits, rfl⟩
    exact fits
  · rintro rfl
    rw [Int32.toInt32_toInt64]
    exact ⟨rfl, rfl⟩

theorem Int64.exists_int32_iff {n : Int64} :
    (∃ held : Int32, held.toInt64 = n) ↔ -2147483648 ≤ n.toInt ∧ n.toInt < 2147483648 := by
  constructor
  · rintro ⟨held, rfl⟩
    rw [Int32.toInt_toInt64]
    exact ⟨held.le_toInt, held.toInt_lt⟩
  · rintro ⟨low, high⟩
    refine ⟨n.toInt32, Int64.toInt_inj.1 ?_⟩
    rw [Int32.toInt_toInt64, Int64.toInt_toInt32]
    exact Int.bmod_eq_of_le (by omega) (by omega)

/-- **The rules for scalars are those by which values are converted.** -/
theorem Scalar.converts_iff {scalar : Scalar} {value converted : Value} :
    scalar.Converts value converted ↔
      ∃ held, scalar.ofValue? value = some held ∧ scalar.toValue held = converted := by
  constructor
  · intro converts
    cases converts with
    | boolean b => exact ⟨b, rfl, rfl⟩
    | int32 n low high =>
      obtain ⟨held, rfl⟩ := Int64.exists_int32_iff.2 ⟨low, high⟩
      exact ⟨held, int32?_eq_some_iff.2 rfl, rfl⟩
    | int64 n => exact ⟨n, rfl, rfl⟩
    | float64 x => exact ⟨x, rfl, rfl⟩
    | rounded n => exact ⟨_, rfl, rfl⟩
    | text s => exact ⟨s, rfl, rfl⟩
  · rintro ⟨held, found, rfl⟩
    cases scalar with
    | boolean =>
      cases value with
      | boolean b => cases found; exact .boolean _
      | _ => cases found
    | int32 =>
      cases value with
      | integer n =>
        obtain rfl := int32?_eq_some_iff.1 found
        obtain ⟨low, high⟩ := Int64.exists_int32_iff.1 ⟨held, rfl⟩
        exact .int32 _ low high
      | _ => cases found
    | int64 =>
      cases value with
      | integer n => cases found; exact .int64 _
      | _ => cases found
    | float64 =>
      cases value with
      | integer n => cases found; exact .rounded _
      | float x => cases found; exact .float64 _
      | _ => cases found
    | text =>
      cases value with
      | string s => cases found; exact .text _
      | _ => cases found

/-- What is held stands for a value from which it can be recovered. -/
theorem Scalar.ofValue?_toValue (scalar : Scalar) (held : scalar.Carrier) :
    scalar.ofValue? (scalar.toValue held) = some held := by
  cases scalar with
  | int32 => exact int32?_eq_some_iff.2 rfl
  | _ => rfl

theorem PropertyType.accept_eq_ok_iff {type : PropertyType} {value : Value} {held : type.Carrier} :
    type.accept value = .ok held ↔ type.ofValue? value = some held := by
  unfold accept
  cases type.ofValue? value with
  | some other => simp
  | none => cases value.kind <;> simp

/-- Null comes first; otherwise the type behind has to accept the value. -/
theorem PropertyType.ofValue?_optional_eq_some_iff {inner : PropertyType} {value : Value}
    {held : Option inner.Carrier} :
    (optional inner).ofValue? value = some held ↔
      (value = .null ∧ held = none) ∨
        value ≠ .null ∧ ∃ inside, inner.ofValue? value = some inside ∧ some inside = held := by
  cases value with
  | null => simp [ofValue?, eq_comm]
  | _ => simp [ofValue?]

/-- The value of what is held is accepted, and what is held then has the same value.  It need not be
what was held before: with null as one more legal value twice over, null is held in two forms. -/
theorem PropertyType.accepts_toValue (type : PropertyType) (held : type.Carrier) :
    (type.ofValue? (type.toValue held)).map type.toValue = some (type.toValue held) := by
  induction type with
  | required scalar => exact congrArg (Option.map _) (scalar.ofValue?_toValue held)
  | custom type => exact type.accepts_toValue held
  | optional inner ih =>
    cases held with
    | none => rfl
    | some held =>
      obtain ⟨inside, found, same⟩ := Option.map_eq_some_iff.1 (ih held)
      refine Option.map_eq_some_iff.2 ?_
      by_cases isNull : inner.toValue held = .null
      · exact ⟨none, ofValue?_optional_eq_some_iff.2 (.inl ⟨isNull, rfl⟩), isNull.symm⟩
      · exact ⟨some inside, ofValue?_optional_eq_some_iff.2 (.inr ⟨isNull, inside, found, rfl⟩),
          same⟩

/-- **The rules for properties are those by which values are accepted.** -/
theorem PropertyType.converts_iff {type : PropertyType} {value converted : Value} :
    type.Converts value converted ↔
      ∃ held, type.accept value = .ok held ∧ type.toValue held = converted := by
  simp only [accept_eq_ok_iff]
  induction type generalizing value converted with
  | required scalar =>
    refine Iff.trans ⟨?_, .required⟩ Scalar.converts_iff
    rintro ⟨⟩
    assumption
  | custom type =>
    constructor
    · rintro ⟨⟩
      exact ⟨_, ‹_›, rfl⟩
    · rintro ⟨held, found, rfl⟩
      exact .custom found
  | optional inner ih =>
    constructor
    · intro converts
      cases converts with
      | optional notNull converts =>
        obtain ⟨held, found, rfl⟩ := ih.1 converts
        exact ⟨some held, ofValue?_optional_eq_some_iff.2 (.inr ⟨notNull, held, found, rfl⟩), rfl⟩
      | null => exact ⟨none, rfl, rfl⟩
    · rintro ⟨held, found, rfl⟩
      rcases ofValue?_optional_eq_some_iff.1 found with
        ⟨rfl, rfl⟩ | ⟨notNull, inside, foundInner, rfl⟩
      · exact .null inner
      · exact .optional notNull (ih.2 ⟨inside, foundInner, rfl⟩)

end Sift
