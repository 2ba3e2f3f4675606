import Sift.Proofs.Expression.Connectives

/-!
# The checker is sound for the evaluator

A term that passes the check of kinds never meets an operand of a wrong kind.  Evaluation *settles*:
it has a value, null or of the kind that was checked, or it fails in a way that no check of kinds
can rule out, by a division by zero or by a pattern that the engine refuses (`Term.settles`).

What a context may fail with is kept open, so that the same law serves contexts that read
properties of a candidate.  Each operator on outcomes has one lemma, which says what it settles to
when its operands do; the theorem on terms is then an induction with one line for each.
-/

set_option autoImplicit false

namespace Sift

/-! ## Settling -/

/-- A computation has an accepted result or fails in a permitted way. -/
def Settles {α : Type} (permitted : EvaluationError → Prop) (accepted : α → Prop) :
    Except EvaluationError α → Prop
  | .ok result => accepted result
  | .error error => permitted error

/-- A value is null or of a kind. -/
def Value.Fits (kind : Kind) (value : Value) : Prop :=
  value = .null ∨ value.kind = some kind

variable {permitted : EvaluationError → Prop}

namespace Settles

variable {α β : Type} {accepted : α → Prop} {accepted' : β → Prop}
  {result : Except EvaluationError α}

theorem bind {next : α → Except EvaluationError β} (settles : Settles permitted accepted result)
    (continues : ∀ middle, accepted middle → Settles permitted accepted' (next middle)) :
    Settles permitted accepted' (result.bind next) := by
  cases result with
  | error error => exact settles
  | ok middle => exact continues middle settles

theorem map {f : α → β} (settles : Settles permitted accepted result)
    (accepts : ∀ middle, accepted middle → accepted' (f middle)) :
    Settles permitted accepted' (result.map f) := by
  cases result with
  | error error => exact settles
  | ok middle => exact accepts middle settles

theorem mono {weaker : α → Prop} (settles : Settles permitted accepted result)
    (implies : ∀ middle, accepted middle → weaker middle) : Settles permitted weaker result := by
  cases result with
  | error error => exact settles
  | ok middle => exact implies middle settles

end Settles

/-! ## Values of a kind -/

theorem Value.kind_of_fits {kind : Kind} {value : Value} (fits : value.Fits kind)
    (known : value.isNull = false) : value.kind = some kind := by
  rcases fits with rfl | same
  · cases known
  · exact same

theorem Value.exists_boolean {value : Value} (same : value.kind = some .boolean) :
    ∃ b, value = .boolean b := by
  cases value <;> cases same
  exact ⟨_, rfl⟩

theorem Value.exists_string {value : Value} (same : value.kind = some .string) :
    ∃ s, value = .string s := by
  cases value <;> cases same
  exact ⟨_, rfl⟩

/-- The kind of a number. -/
def Numeral.kind : Numeral → Kind
  | .integer _ => .integer
  | .float _ => .float

theorem Value.exists_numeral {kind : Kind} {value : Value} (same : value.kind = some kind)
    (numeric : kind.isNumeric = true) :
    ∃ numeral : Numeral, value.numeral? = some numeral ∧ numeral.kind = kind := by
  cases value <;> cases same
  case integer n => exact ⟨.integer n, rfl, rfl⟩
  case float x => exact ⟨.float x, rfl, rfl⟩
  all_goals cases numeric

theorem Value.fits_ofTruth (truth : Truth) : (Value.ofTruth truth).Fits .boolean := by
  cases truth with
  | none => exact Or.inl rfl
  | some b => exact Or.inr rfl

/-! ## Operators on outcomes -/

theorem truth_settles {operator : String} {outcome : Outcome}
    (settles : Settles permitted (Value.Fits .boolean) outcome) :
    Settles permitted (fun _ => True) (Outcome.truth operator outcome) := by
  refine settles.bind fun value fits => ?_
  rcases fits with rfl | same
  · trivial
  · obtain ⟨b, rfl⟩ := Value.exists_boolean same
    trivial

theorem anyTruth_settles {outcomes : List Outcome} (seen : Truth)
    (settles : ∀ outcome ∈ outcomes, Settles permitted (Value.Fits .boolean) outcome) :
    Settles permitted (fun _ => True) (anyTruth seen outcomes) := by
  induction outcomes generalizing seen with
  | nil => trivial
  | cons outcome rest ih =>
    obtain ⟨first, others⟩ := List.forall_mem_cons.1 settles
    have truth : Settles permitted (fun _ => True) (Outcome.truth "ANY" outcome) :=
      truth_settles first
    simp only [anyTruth]
    cases found : Outcome.truth "ANY" outcome with
    | error error => rwa [found] at truth
    | ok known =>
      cases known with
      | none => exact ih seen others
      | some b =>
        cases b with
        | false => exact ih (some false) others
        | true => trivial

theorem bothKnown_settles {left right : Outcome} {leftKind rightKind : Kind}
    (settlesLeft : Settles permitted (Value.Fits leftKind) left)
    (settlesRight : Settles permitted (Value.Fits rightKind) right) :
    Settles permitted
      (fun pair => ∀ values ∈ pair,
        values.1.kind = some leftKind ∧ values.2.kind = some rightKind)
      (bothKnown left right) := by
  refine settlesLeft.bind fun left fitsLeft => ?_
  cases knownLeft : left.isNull with
  | true => exact nofun
  | false =>
    refine settlesRight.bind fun right fitsRight => ?_
    cases knownRight : right.isNull with
    | true => exact nofun
    | false =>
      rintro values ⟨⟩
      exact ⟨Value.kind_of_fits fitsLeft knownLeft, Value.kind_of_fits fitsRight knownRight⟩

/-- Operands of `BETWEEN` of which all are numbers or all are strings. -/
def Alike (kinds : List Kind) : Prop :=
  (∀ kind ∈ kinds, kind.isNumeric = true) ∨ ∀ kind ∈ kinds, kind = .string

theorem alike_iff {kinds : List Kind} :
    Alike kinds ↔ (kinds.all Kind.isNumeric || kinds.all (· == .string)) = true := by
  simp [Alike, List.all_eq_true]

theorem isBetween_settles {value low high : Value} {kind lowKind highKind : Kind}
    (alike : Alike [kind, lowKind, highKind]) (same : value.kind = some kind)
    (sameLow : low.kind = some lowKind) (sameHigh : high.kind = some highKind) :
    Settles permitted (fun _ => True) (isBetween value low high) := by
  rcases alike with numeric | strings
  · simp only [List.forall_mem_cons] at numeric
    obtain ⟨v, isV, _⟩ := Value.exists_numeral same numeric.1
    obtain ⟨l, isL, _⟩ := Value.exists_numeral sameLow numeric.2.1
    obtain ⟨h, isH, _⟩ := Value.exists_numeral sameHigh numeric.2.2.1
    unfold isBetween
    rw [isV, isL, isH]
    cases v <;> cases l <;> cases h <;> trivial
  · simp only [List.forall_mem_cons] at strings
    obtain ⟨rfl, rfl, rfl, _⟩ := strings
    obtain ⟨v, rfl⟩ := Value.exists_string same
    obtain ⟨l, rfl⟩ := Value.exists_string sameLow
    obtain ⟨h, rfl⟩ := Value.exists_string sameHigh
    trivial

theorem betweenOutcome_settles {value low high : Outcome} {kind lowKind highKind : Kind}
    (alike : Alike [kind, lowKind, highKind])
    (settles : Settles permitted (Value.Fits kind) value)
    (settlesLow : Settles permitted (Value.Fits lowKind) low)
    (settlesHigh : Settles permitted (Value.Fits highKind) high) :
    Settles permitted (Value.Fits .boolean) (betweenOutcome value low high) := by
  refine settles.bind fun value fits => ?_
  cases known : value.isNull with
  | true => exact Or.inl rfl
  | false =>
    refine settlesLow.bind fun low fitsLow => ?_
    cases knownLow : low.isNull with
    | true => exact Or.inl rfl
    | false =>
      refine settlesHigh.bind fun high fitsHigh => ?_
      cases knownHigh : high.isNull with
      | true => exact Or.inl rfl
      | false =>
        have inRange : Settles permitted (fun _ => True) (isBetween value low high) :=
          isBetween_settles alike (Value.kind_of_fits fits known)
            (Value.kind_of_fits fitsLow knownLow) (Value.kind_of_fits fitsHigh knownHigh)
        exact inRange.map fun _ _ => Or.inr rfl

theorem memberTruth_settles {value : Value} {items : List Outcome} (seen : Truth)
    (settles : ∀ item ∈ items, Settles permitted (fun _ => True) item) :
    Settles permitted (fun _ => True) (memberTruth value seen items) := by
  induction items generalizing seen with
  | nil => trivial
  | cons item rest ih =>
    obtain ⟨first, others⟩ := List.forall_mem_cons.1 settles
    refine first.bind fun item _ => ?_
    cases item.isNull with
    | true => exact ih none others
    | false =>
      cases found : Comparison.eq.holdsOf value item with
      | true => trivial
      | false => exact ih seen others

theorem inOutcome_settles {value : Outcome} {items : List Outcome}
    (settles : Settles permitted (fun _ => True) value)
    (settlesAll : ∀ item ∈ items, Settles permitted (fun _ => True) item) :
    Settles permitted (Value.Fits .boolean) (inOutcome value items) := by
  refine settles.bind fun value _ => ?_
  cases value.isNull with
  | true => exact Or.inl rfl
  | false =>
    exact (memberTruth_settles (some false) settlesAll).map fun truth _ => Value.fits_ofTruth truth

theorem compareOutcome_settles {operator : Comparison} {left right : Outcome}
    {leftKind rightKind : Kind} (settlesLeft : Settles permitted (Value.Fits leftKind) left)
    (settlesRight : Settles permitted (Value.Fits rightKind) right) :
    Settles permitted (Value.Fits .boolean) (compareOutcome operator left right) := by
  refine (bothKnown_settles settlesLeft settlesRight).map fun pair _ => ?_
  cases pair with
  | none => exact Or.inl rfl
  | some values => exact Or.inr rfl

/-- The failures that no check of kinds can rule out are permitted. -/
structure Unavoidable [Engine] (permitted : EvaluationError → Prop) : Prop where
  divisionByZero : permitted .divisionByZero
  refused : ∀ text message, Pattern.compile ⟨text, none⟩ = .error message →
    permitted (.invalidPattern text message)

section Operators

variable [Engine] (unavoidable : Unavoidable permitted)
include unavoidable

theorem isLike_settles {subject pattern : Value} (same : subject.kind = some .string)
    (samePattern : pattern.kind = some .string ∨ pattern.kind = some .pattern) :
    Settles permitted (fun _ => True) (isLike subject pattern) := by
  obtain ⟨text, rfl⟩ := Value.exists_string same
  rcases samePattern with string | compiled
  · obtain ⟨source, rfl⟩ := Value.exists_string string
    simp only [isLike]
    cases found : Pattern.compile ⟨source, none⟩ with
    | error message => exact unavoidable.refused source message found
    | ok test => trivial
  · cases pattern <;> cases compiled
    trivial

theorem likeOutcome_settles {subject pattern : Outcome} {kind : Kind}
    (settles : Settles permitted (Value.Fits .string) subject)
    (settlesPattern : Settles permitted (Value.Fits kind) pattern)
    (accepted : Demand.stringOrPattern.accepts kind = true) :
    Settles permitted (Value.Fits .boolean) (likeOutcome subject pattern) := by
  refine settles.bind fun subject fits => settlesPattern.bind fun pattern fitsPattern => ?_
  cases known : subject.isNull with
  | true => exact Or.inl rfl
  | false =>
    cases knownPattern : pattern.isNull with
    | true => exact Or.inl rfl
    | false =>
      have samePattern := Value.kind_of_fits fitsPattern knownPattern
      have stringOrPattern : pattern.kind = some .string ∨ pattern.kind = some .pattern := by
        cases kind <;> first | exact Or.inl samePattern | exact Or.inr samePattern | cases accepted
      have matched := isLike_settles unavoidable (Value.kind_of_fits fits known) stringOrPattern
      exact matched.map fun _ _ => Or.inr rfl

theorem calculate_settles {operator : Arithmetic} {left right : Value}
    {leftKind rightKind kind : Kind} (sameLeft : left.kind = some leftKind)
    (sameRight : right.kind = some rightKind) (numericLeft : leftKind.isNumeric = true)
    (numericRight : rightKind.isNumeric = true)
    (result : resultKind (some leftKind) (some rightKind) = some kind) :
    Settles permitted (Value.Fits kind) (calculate operator left right) := by
  obtain ⟨a, isA, rfl⟩ := Value.exists_numeral sameLeft numericLeft
  obtain ⟨b, isB, rfl⟩ := Value.exists_numeral sameRight numericRight
  unfold calculate
  rw [isA, isB]
  cases a with
  | float x => cases b <;> cases result <;> exact Or.inr rfl
  | integer n =>
    cases b with
    | float x => cases result; exact Or.inr rfl
    | integer m =>
      cases result
      simp only [Arithmetic.onNumerals, Numeral.promote]
      cases operator.onIntegers n m with
      | none => exact unavoidable.divisionByZero
      | some value => exact Or.inr rfl

theorem arithmeticOutcome_settles {operator : Arithmetic} {left right : Outcome}
    {leftKind rightKind kind : Kind} (settlesLeft : Settles permitted (Value.Fits leftKind) left)
    (settlesRight : Settles permitted (Value.Fits rightKind) right)
    (numericLeft : leftKind.isNumeric = true) (numericRight : rightKind.isNumeric = true)
    (result : resultKind (some leftKind) (some rightKind) = some kind) :
    Settles permitted (Value.Fits kind) (arithmeticOutcome operator left right) := by
  refine (bothKnown_settles settlesLeft settlesRight).bind fun pair known => ?_
  cases pair with
  | none => exact Or.inl rfl
  | some values =>
    obtain ⟨sameLeft, sameRight⟩ := known values rfl
    exact calculate_settles unavoidable sameLeft sameRight numericLeft numericRight result

end Operators

theorem negated_settles {value : Value} {kind : Kind} (fits : value.Fits kind)
    (numeric : kind.isNumeric = true) :
    Settles permitted (Value.Fits kind) (negated value) := by
  rcases fits with rfl | same
  · exact Or.inl rfl
  · obtain ⟨numeral, isNumeral, rfl⟩ := Value.exists_numeral same numeric
    cases value <;> cases isNumeral <;> exact Or.inr rfl

/-! ## Terms -/

/-- The operands of `BETWEEN` pass the check when those of a known kind are alike. -/
theorem checkBetween_eq_ok_iff {operands : List Checked} {kind : Option Kind} :
    checkBetween operands = .ok kind ↔
      kind = some .boolean ∧
        ∃ kinds, kindsOf operands = .ok kinds ∧ Alike (kinds.filterMap id) := by
  simp only [checkBetween, bind_eq_ok_iff]
  constructor
  · rintro ⟨kinds, found, verdict⟩
    by_cases alike : Alike (kinds.filterMap id)
    · rw [if_pos (alike_iff.1 alike)] at verdict
      exact ⟨(Except.ok.inj verdict).symm, kinds, found, alike⟩
    · rw [if_neg fun accepted => alike (alike_iff.2 accepted)] at verdict
      cases verdict
  · rintro ⟨rfl, kinds, found, alike⟩
    exact ⟨kinds, found, if_pos (alike_iff.1 alike)⟩

/-- A property has a known kind, and its value settles to that kind. -/
def Declared (permitted : EvaluationError → Prop) (schema : Schema) (context : Context)
    (name : String) : Prop :=
  ∃ known, schema name = some known ∧ Settles permitted (Value.Fits known) (context name)

section Terms

variable [Engine] {schema : Schema} {context : Context}

/-- A term evaluates as its check says: a kind that is checked is known, and evaluation settles to
it. -/
def Term.Sound (permitted : EvaluationError → Prop) (schema : Schema) (context : Context)
    (term : Term) : Prop :=
  ∀ kind, term.check schema = .ok kind →
    ∃ known, kind = some known ∧ Settles permitted (Value.Fits known) (term.evaluate context)

/-- A term that has to be a truth value settles to one. -/
theorem Term.Sound.settles_boolean {term : Term}
    (sound : term.Sound permitted schema context)
    (meets : (term.check schema).Meets .boolean) :
    Settles permitted (Value.Fits .boolean) (term.evaluate context) := by
  obtain ⟨kind, checked, accepted⟩ := meets
  obtain ⟨known, rfl, settles⟩ := sound kind checked
  have boolean : known = .boolean := of_decide_eq_true (accepted known rfl)
  exact boolean ▸ settles

/-- A term whose kind was checked settles to a value of some kind. -/
theorem Term.Sound.settles_any {term : Term} (sound : term.Sound permitted schema context)
    {kind : Option Kind} (checked : term.check schema = .ok kind) :
    Settles permitted (fun _ => True) (term.evaluate context) := by
  obtain ⟨_, _, settles⟩ := sound kind checked
  exact settles.mono fun _ _ => trivial

namespace Term.Sound

theorem property {name : String} (declared : Declared permitted schema context name) :
    (Term.property name).Sound permitted schema context := by
  intro kind checked
  obtain ⟨known, found, settles⟩ := declared
  rw [Term.check] at checked
  cases checked
  rw [Term.evaluate]
  exact ⟨known, found, settles⟩

theorem literal (content : Literal) : (Term.literal content).Sound permitted schema context := by
  intro kind checked
  rw [Term.check] at checked
  cases checked
  rw [Term.evaluate]
  cases content with
  | boolean b => exact ⟨.boolean, rfl, Or.inr rfl⟩
  | number n => cases n <;> exact ⟨_, rfl, Or.inr rfl⟩
  | string s => exact ⟨.string, rfl, Or.inr rfl⟩
  | pattern p => exact ⟨.pattern, rfl, Or.inr rfl⟩

theorem connect {operator : Connective} {left right : Term}
    (soundLeft : left.Sound permitted schema context)
    (soundRight : right.Sound permitted schema context) :
    (Term.connect operator left right).Sound permitted schema context := by
  intro kind checked
  obtain ⟨rfl, meetsLeft, meetsRight⟩ := Term.check_connect_eq_ok_iff.1 checked
  refine ⟨.boolean, rfl, ?_⟩
  rw [Term.evaluate_connect_eq]
  refine (truth_settles (soundLeft.settles_boolean meetsLeft)).bind fun _ _ => ?_
  exact (truth_settles (soundRight.settles_boolean meetsRight)).map fun _ _ =>
    Value.fits_ofTruth _

theorem not {operand : Term} (sound : operand.Sound permitted schema context) :
    (Term.not operand).Sound permitted schema context := by
  intro kind checked
  rw [Term.check] at checked
  obtain ⟨rfl, meets⟩ := checkBooleans_eq_ok_iff.1 checked
  refine ⟨.boolean, rfl, ?_⟩
  rw [Term.evaluate]
  have boolean := sound.settles_boolean (meets _ (List.mem_singleton_self _))
  exact (truth_settles boolean).map fun _ _ => Value.fits_ofTruth _

theorem isNull {operand : Term} (sound : operand.Sound permitted schema context) :
    (Term.isNull operand).Sound permitted schema context := by
  intro kind checked
  rw [Term.check] at checked
  obtain ⟨rfl, known⟩ := checkTest_eq_ok_iff.1 checked
  obtain ⟨_, checkedOperand⟩ := known _ (List.mem_singleton_self _)
  refine ⟨.boolean, rfl, ?_⟩
  rw [Term.evaluate]
  exact (sound.settles_any checkedOperand).map fun _ _ => Or.inr rfl

theorem between {value low high : Term} (sound : value.Sound permitted schema context)
    (soundLow : low.Sound permitted schema context)
    (soundHigh : high.Sound permitted schema context) :
    (Term.between value low high).Sound permitted schema context := by
  intro kind checked
  rw [Term.check] at checked
  obtain ⟨rfl, kinds, found, alike⟩ := checkBetween_eq_ok_iff.1 checked
  simp only [kindsOf, bind_eq_ok_iff, map_eq_ok_iff] at found
  obtain ⟨_, checkedValue, _, ⟨_, checkedLow, _, ⟨_, checkedHigh, _, ⟨⟩, rfl⟩, rfl⟩, rfl⟩ := found
  obtain ⟨known, rfl, settles⟩ := sound _ checkedValue
  obtain ⟨lowKnown, rfl, settlesLow⟩ := soundLow _ checkedLow
  obtain ⟨highKnown, rfl, settlesHigh⟩ := soundHigh _ checkedHigh
  refine ⟨.boolean, rfl, ?_⟩
  rw [Term.evaluate]
  exact betweenOutcome_settles alike settles settlesLow settlesHigh

theorem inList {value : Term} {items : List Term}
    (sound : value.Sound permitted schema context)
    (soundAll : ∀ item ∈ items, item.Sound permitted schema context) :
    (Term.inList value items).Sound permitted schema context := by
  intro kind checked
  rw [Term.check] at checked
  obtain ⟨rfl, known⟩ := checkTest_eq_ok_iff.1 checked
  obtain ⟨knownValue, knownItems⟩ := List.forall_mem_cons.1 known
  obtain ⟨_, checkedValue⟩ := knownValue
  refine ⟨.boolean, rfl, ?_⟩
  rw [Term.evaluate]
  refine inOutcome_settles (sound.settles_any checkedValue) (List.forall_mem_map.2 ?_)
  intro item member
  obtain ⟨_, checkedItem⟩ := knownItems _ (List.mem_map_of_mem member)
  exact (soundAll item member).settles_any checkedItem

theorem compare {operator : Comparison} {left right : Term}
    (soundLeft : left.Sound permitted schema context)
    (soundRight : right.Sound permitted schema context) :
    (Term.compare operator left right).Sound permitted schema context := by
  intro kind checked
  rw [Term.check] at checked
  obtain ⟨rfl, known⟩ := checkTest_eq_ok_iff.1 checked
  simp only [List.forall_mem_cons] at known
  obtain ⟨⟨_, checkedLeft⟩, ⟨_, checkedRight⟩, _⟩ := known
  obtain ⟨_, _, settlesLeft⟩ := soundLeft _ checkedLeft
  obtain ⟨_, _, settlesRight⟩ := soundRight _ checkedRight
  refine ⟨.boolean, rfl, ?_⟩
  rw [Term.evaluate]
  exact compareOutcome_settles settlesLeft settlesRight

theorem any {operands : List Term}
    (sound : ∀ operand ∈ operands, operand.Sound permitted schema context) :
    (Term.any operands).Sound permitted schema context := by
  intro kind checked
  rw [Term.check] at checked
  obtain ⟨rfl, meets⟩ := checkBooleans_eq_ok_iff.1 checked
  refine ⟨.boolean, rfl, ?_⟩
  rw [Term.evaluate]
  have booleans : ∀ outcome ∈ operands.map fun operand => operand.evaluate context,
      Settles permitted (Value.Fits .boolean) outcome := by
    refine List.forall_mem_map.2 fun operand member => ?_
    exact (sound operand member).settles_boolean (meets _ (List.mem_map_of_mem member))
  exact (anyTruth_settles none booleans).map fun _ _ => Value.fits_ofTruth _

variable (unavoidable : Unavoidable permitted)
include unavoidable

theorem like {subject pattern : Term} (sound : subject.Sound permitted schema context)
    (soundPattern : pattern.Sound permitted schema context) :
    (Term.like subject pattern).Sound permitted schema context := by
  intro kind checked
  rw [Term.check] at checked
  obtain ⟨rfl, ⟨_, checkedSubject, string⟩, ⟨_, checkedPattern, stringOrPattern⟩⟩ :=
    checkLike_eq_ok_iff.1 checked
  obtain ⟨known, rfl, settles⟩ := sound _ checkedSubject
  obtain ⟨patternKnown, rfl, settlesPattern⟩ := soundPattern _ checkedPattern
  have isString : known = .string := of_decide_eq_true (string known rfl)
  subst isString
  refine ⟨.boolean, rfl, ?_⟩
  rw [Term.evaluate]
  exact likeOutcome_settles unavoidable settles settlesPattern (stringOrPattern patternKnown rfl)

theorem arithmetic {operator : Arithmetic} {left right : Term}
    (soundLeft : left.Sound permitted schema context)
    (soundRight : right.Sound permitted schema context) :
    (Term.arithmetic operator left right).Sound permitted schema context := by
  intro kind checked
  rw [Term.check] at checked
  obtain ⟨_, _, checkedLeft, checkedRight, acceptedLeft, acceptedRight, rfl⟩ :=
    checkArithmetic_eq_ok_iff.1 checked
  obtain ⟨leftKnown, rfl, settlesLeft⟩ := soundLeft _ checkedLeft
  obtain ⟨rightKnown, rfl, settlesRight⟩ := soundRight _ checkedRight
  have numericLeft := acceptedLeft leftKnown rfl
  have numericRight := acceptedRight rightKnown rfl
  obtain ⟨known, result⟩ : ∃ known, resultKind (some leftKnown) (some rightKnown) = some known := by
    cases leftKnown <;> cases rightKnown <;> first | exact ⟨_, rfl⟩ | contradiction
  refine ⟨known, result, ?_⟩
  rw [Term.evaluate]
  exact arithmeticOutcome_settles unavoidable settlesLeft settlesRight numericLeft numericRight
    result

omit unavoidable in
theorem negate {operand : Term} (sound : operand.Sound permitted schema context) :
    (Term.negate operand).Sound permitted schema context := by
  intro kind checked
  rw [Term.check] at checked
  obtain ⟨checkedOperand, numeric⟩ := checkNegation_eq_ok_iff.1 checked
  obtain ⟨known, rfl, settles⟩ := sound _ checkedOperand
  refine ⟨known, rfl, ?_⟩
  rw [Term.evaluate]
  exact settles.bind fun value fits => negated_settles fits (numeric known rfl)

end Term.Sound

/-- **Soundness of the checker on terms.**  If every property of a term has a known kind and
settles to it, the term evaluates as its check says. -/
theorem Term.sound (unavoidable : Unavoidable permitted) (term : Term)
    (declared : ∀ name, term.Mentions name → Declared permitted schema context name) :
    term.Sound permitted schema context := by
  induction term using Term.operandInduction with
  | step term ih =>
    have sound : ∀ operand ∈ term.operands, operand.Sound permitted schema context :=
      fun operand member => ih operand member fun name mentioned =>
        declared name (.inside member mentioned)
    cases term with
    | property name => exact .property (declared name .here)
    | literal content => exact .literal content
    | connect operator left right =>
      exact .connect (sound left (by simp [operands])) (sound right (by simp [operands]))
    | not operand => exact .not (sound operand (by simp [operands]))
    | isNull operand => exact .isNull (sound operand (by simp [operands]))
    | between value low high =>
      exact .between (sound value (by simp [operands])) (sound low (by simp [operands]))
        (sound high (by simp [operands]))
    | inList value items =>
      exact .inList (sound value (by simp [operands])) fun item member =>
        sound item (List.mem_cons_of_mem _ member)
    | like subject pattern =>
      exact .like unavoidable (sound subject (by simp [operands]))
        (sound pattern (by simp [operands]))
    | compare operator left right =>
      exact .compare (sound left (by simp [operands])) (sound right (by simp [operands]))
    | any operands => exact .any sound
    | arithmetic operator left right =>
      exact .arithmetic unavoidable (sound left (by simp [operands]))
        (sound right (by simp [operands]))
    | negate operand => exact .negate (sound operand (by simp [operands]))

end Terms

end Sift
