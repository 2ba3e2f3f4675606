import Sift.Proofs.Expression.Acceptance

/-!
# The checker rejects only what fails

A term that passes the check of kinds evaluates as it was checked.  Conversely, a term that is
rejected has no value for any candidate of which everything is known: what a node demands of an
operand is also what evaluation demands of it, and evaluation reaches every operand.

This is best seen with the kinds that the properties of the candidate actually have.  With these
kinds, evaluating a term to a value is checking it to be of the kind of the value (`Term.exact`).  A
schema that knows only some of them never rejects more (`Term.check_of_informed`), so what it
rejects has no value either.

Evaluation does not reach every operand everywhere.  `ANY` and `IN` stop at the first operand that
settles the answer, and other operators at the first that is null.  Hence terms with `ANY` or `IN`
are left out, and no property may be null.
-/

set_option autoImplicit false

namespace Sift

/-! ## Values of known kinds -/

theorem Value.isNull_of_kind {value : Value} {kind : Kind} (same : value.kind = some kind) :
    value.isNull = false := by
  cases value <;> first | rfl | cases same

theorem Value.exists_kind {value : Value} (known : value ≠ .null) :
    ∃ kind, value.kind = some kind := by
  cases value <;> first | exact ⟨_, rfl⟩ | exact absurd rfl known

theorem Value.kind_of_numeral? {value : Value} {numeral : Numeral}
    (isNumeral : value.numeral? = some numeral) : value.kind = some numeral.kind := by
  cases value <;> cases isNumeral <;> rfl

theorem Numeral.kind_isNumeric (numeral : Numeral) : numeral.kind.isNumeric = true := by
  cases numeral <;> rfl

theorem Value.kind_ofTruth {truth : Truth} {kind : Kind}
    (same : (Value.ofTruth truth).kind = some kind) : kind = .boolean ∧ ∃ b, truth = some b := by
  cases truth with
  | none => cases same
  | some b =>
    cases same
    exact ⟨rfl, b, rfl⟩

/-- Two truth values that are known give one that is known. -/
theorem Connective.exists_combine_some (operator : Connective) (left right : Bool) :
    ∃ b, operator.combine (some left) (some right) = some b := by
  cases operator <;> cases left <;> cases right <;> exact ⟨_, rfl⟩

/-! ## What operators accept -/

theorem alike_of_isBetween {value low high : Value} {kind lowKind highKind : Kind}
    (same : value.kind = some kind) (sameLow : low.kind = some lowKind)
    (sameHigh : high.kind = some highKind) {inRange : Bool}
    (found : isBetween value low high = .ok inRange) : Alike [kind, lowKind, highKind] := by
  have numbers {v l h : Numeral} (isV : value.numeral? = some v) (isL : low.numeral? = some l)
      (isH : high.numeral? = some h) : Alike [kind, lowKind, highKind] := by
    cases same.symm.trans (Value.kind_of_numeral? isV)
    cases sameLow.symm.trans (Value.kind_of_numeral? isL)
    cases sameHigh.symm.trans (Value.kind_of_numeral? isH)
    simp [Alike, Numeral.kind_isNumeric]
  revert found
  -- three integers, three numbers, three strings, or none of these
  fun_cases isBetween value low high <;> intro found
  case case1 isV isL isH => exact numbers isV isL isH
  case case2 _ isV isL isH => exact numbers isV isL isH
  case case3 =>
    cases same
    cases sameLow
    cases sameHigh
    exact Or.inr (by decide)
  case case4 => cases found

theorem accepts_of_isLike [Engine] {subject pattern : Value} {kind patternKind : Kind}
    (same : subject.kind = some kind) (samePattern : pattern.kind = some patternKind)
    {matched : Bool} (found : isLike subject pattern = .ok matched) :
    kind = .string ∧ Demand.stringOrPattern.accepts patternKind = true := by
  revert found
  fun_cases isLike subject pattern <;> intro found <;> cases found
  all_goals
    cases same
    cases samePattern
    exact ⟨rfl, rfl⟩

/-- The kind of a result of arithmetic is the one that is foreseen for its operands. -/
theorem Arithmetic.kind_of_onNumerals {operator : Arithmetic} {left right : Numeral}
    {result : Value} (calculated : operator.onNumerals left right = some result) :
    ∃ kind, result.kind = some kind ∧
      resultKind (some left.kind) (some right.kind) = some kind := by
  cases left with
  | float x => cases right <;> cases calculated <;> exact ⟨_, rfl, rfl⟩
  | integer n =>
    cases right with
    | float x =>
      cases calculated
      exact ⟨_, rfl, rfl⟩
    | integer m =>
      obtain ⟨_, _, rfl⟩ := Option.map_eq_some_iff.1 calculated
      exact ⟨_, rfl, rfl⟩

theorem kind_of_calculate {operator : Arithmetic} {left right result : Value}
    {leftKind rightKind : Kind} (sameLeft : left.kind = some leftKind)
    (sameRight : right.kind = some rightKind) (found : calculate operator left right = .ok result) :
    leftKind.isNumeric = true ∧ rightKind.isNumeric = true ∧
      ∃ kind, result.kind = some kind ∧
        resultKind (some leftKind) (some rightKind) = some kind := by
  revert found
  fun_cases calculate operator left right <;> intro found
  case case1 a b isB isA value calculated =>
    cases found
    cases sameLeft.symm.trans (Value.kind_of_numeral? isA)
    cases sameRight.symm.trans (Value.kind_of_numeral? isB)
    exact ⟨a.kind_isNumeric, b.kind_isNumeric, Arithmetic.kind_of_onNumerals calculated⟩
  all_goals cases found

theorem kind_of_negated {value result : Value} {kind : Kind} (same : value.kind = some kind)
    (found : negated value = .ok result) :
    kind.isNumeric = true ∧ result.kind = some kind := by
  cases value <;> cases same <;> cases found <;> exact ⟨rfl, rfl⟩

/-! ## Terms -/

/-- The kinds of the values that a context gives. -/
def Schema.ofContext (context : Context) : Schema :=
  fun name => (context name).toOption.bind Value.kind

section Terms

variable [Engine] {context : Context}

/-- A term evaluates only to values of known kinds, and is checked to be of that kind. -/
def Term.Exact (context : Context) (term : Term) : Prop :=
  ∀ value, term.evaluate context = .ok value →
    ∃ kind, value.kind = some kind ∧ term.check (Schema.ofContext context) = .ok (some kind)

namespace Term.Exact

/-- An operand that has a truth value has a known one. -/
theorem truth {term : Term} (exact : term.Exact context) {operator : String} {truth : Truth}
    (found : Outcome.truth operator (term.evaluate context) = .ok truth) :
    (term.check (Schema.ofContext context)).Meets .boolean ∧ ∃ b, truth = some b := by
  obtain ⟨kind, same, checked⟩ := exact _ (Outcome.truth_eq_ok_iff.1 found)
  obtain ⟨rfl, known⟩ := Value.kind_ofTruth same
  exact ⟨Checked.meets_of_accepts checked rfl, known⟩

/-- An operand without which the result would be unknown is known. -/
theorem unlessNull {α : Type} {term : Term} (exact : term.Exact context) {unknown result : α}
    {next : Value → Except EvaluationError α}
    (found : ((term.evaluate context).bind fun value =>
      if value.isNull then .ok unknown else next value) = .ok result) :
    ∃ value kind, value.kind = some kind ∧
      term.check (Schema.ofContext context) = .ok (some kind) ∧ next value = .ok result := by
  obtain ⟨value, evaluated, found⟩ := bind_eq_ok_iff.1 found
  obtain ⟨kind, same, checked⟩ := exact value evaluated
  rw [Value.isNull_of_kind same] at found
  exact ⟨value, kind, same, checked, found⟩

/-- The operands of a binary operator are both known. -/
theorem bothKnown {left right : Term} (exactLeft : left.Exact context)
    (exactRight : right.Exact context) {pair : Option (Value × Value)}
    (found : bothKnown (left.evaluate context) (right.evaluate context) = .ok pair) :
    ∃ leftValue rightValue leftKind rightKind, pair = some (leftValue, rightValue) ∧
      leftValue.kind = some leftKind ∧ rightValue.kind = some rightKind ∧
      left.check (Schema.ofContext context) = .ok (some leftKind) ∧
      right.check (Schema.ofContext context) = .ok (some rightKind) := by
  obtain ⟨leftValue, leftKind, sameLeft, checkedLeft, found⟩ := exactLeft.unlessNull found
  obtain ⟨rightValue, evaluated, found⟩ := bind_eq_ok_iff.1 found
  obtain ⟨rightKind, sameRight, checkedRight⟩ := exactRight rightValue evaluated
  rw [Value.isNull_of_kind sameRight] at found
  exact ⟨leftValue, rightValue, leftKind, rightKind, (Except.ok.inj found).symm, sameLeft,
    sameRight, checkedLeft, checkedRight⟩

theorem property {name : String}
    (known : ∃ value, context name = .ok value ∧ value ≠ .null) :
    (Term.property name).Exact context := by
  intro value evaluated
  rw [Term.evaluate] at evaluated
  obtain ⟨_, found, notNull⟩ := known
  cases found.symm.trans evaluated
  obtain ⟨kind, same⟩ := Value.exists_kind notNull
  refine ⟨kind, same, ?_⟩
  rw [Term.check, Schema.ofContext, found]
  exact congrArg Except.ok same

theorem literal (content : Literal) : (Term.literal content).Exact context := by
  intro value evaluated
  rw [Term.evaluate] at evaluated
  cases evaluated
  rw [Term.check]
  cases content with
  | number n => cases n <;> exact ⟨_, rfl, rfl⟩
  | _ => exact ⟨_, rfl, rfl⟩

theorem connect {operator : Connective} {left right : Term} (exactLeft : left.Exact context)
    (exactRight : right.Exact context) : (Term.connect operator left right).Exact context := by
  intro value evaluated
  rw [Term.evaluate_connect_eq] at evaluated
  obtain ⟨known, foundLeft, evaluated⟩ := bind_eq_ok_iff.1 evaluated
  obtain ⟨truth, foundRight, rfl⟩ := map_eq_ok_iff.1 evaluated
  obtain ⟨meetsLeft, first, rfl⟩ := exactLeft.truth foundLeft
  obtain ⟨meetsRight, second, rfl⟩ := exactRight.truth foundRight
  obtain ⟨b, combined⟩ := operator.exists_combine_some first second
  rw [combined]
  exact ⟨.boolean, rfl, Term.check_connect_eq_ok_iff.2 ⟨rfl, meetsLeft, meetsRight⟩⟩

theorem not {operand : Term} (exact : operand.Exact context) :
    (Term.not operand).Exact context := by
  intro value evaluated
  rw [Term.evaluate] at evaluated
  obtain ⟨truth, found, rfl⟩ := map_eq_ok_iff.1 evaluated
  obtain ⟨meets, b, rfl⟩ := exact.truth found
  refine ⟨.boolean, rfl, ?_⟩
  rw [Term.check]
  exact checkBooleans_eq_ok_iff.2 ⟨rfl, List.forall_mem_singleton.2 meets⟩

theorem isNull {operand : Term} (exact : operand.Exact context) :
    (Term.isNull operand).Exact context := by
  intro value evaluated
  rw [Term.evaluate] at evaluated
  obtain ⟨inner, found, rfl⟩ := map_eq_ok_iff.1 evaluated
  obtain ⟨kind, _, checked⟩ := exact inner found
  refine ⟨.boolean, rfl, ?_⟩
  rw [Term.check]
  exact checkTest_eq_ok_iff.2 ⟨rfl, List.forall_mem_singleton.2 ⟨_, checked⟩⟩

theorem between {value low high : Term} (exact : value.Exact context)
    (exactLow : low.Exact context) (exactHigh : high.Exact context) :
    (Term.between value low high).Exact context := by
  intro result evaluated
  rw [Term.evaluate] at evaluated
  -- each operand is reached because the one before it is not null
  obtain ⟨_, kind, same, checked, evaluated⟩ := exact.unlessNull evaluated
  obtain ⟨_, lowKind, sameLow, checkedLow, evaluated⟩ := exactLow.unlessNull evaluated
  obtain ⟨_, highKind, sameHigh, checkedHigh, evaluated⟩ := exactHigh.unlessNull evaluated
  obtain ⟨inRange, found, rfl⟩ := map_eq_ok_iff.1 evaluated
  refine ⟨.boolean, rfl, ?_⟩
  rw [Term.check, checked, checkedLow, checkedHigh]
  exact checkBetween_eq_ok_iff.2
    ⟨rfl, _, rfl, alike_of_isBetween same sameLow sameHigh found⟩

theorem like {subject pattern : Term} (exact : subject.Exact context)
    (exactPattern : pattern.Exact context) : (Term.like subject pattern).Exact context := by
  intro result evaluated
  rw [Term.evaluate] at evaluated
  obtain ⟨value, found, evaluated⟩ := bind_eq_ok_iff.1 evaluated
  obtain ⟨patternValue, foundPattern, evaluated⟩ := bind_eq_ok_iff.1 evaluated
  obtain ⟨kind, same, checked⟩ := exact value found
  obtain ⟨patternKind, samePattern, checkedPattern⟩ := exactPattern patternValue foundPattern
  rw [Value.isNull_of_kind same, Value.isNull_of_kind samePattern] at evaluated
  obtain ⟨matched, isMatched, rfl⟩ := map_eq_ok_iff.1 evaluated
  obtain ⟨rfl, accepted⟩ := accepts_of_isLike same samePattern isMatched
  refine ⟨.boolean, rfl, ?_⟩
  rw [Term.check]
  exact checkLike_eq_ok_iff.2 ⟨rfl, Checked.meets_of_accepts checked rfl,
    Checked.meets_of_accepts checkedPattern accepted⟩

theorem compare {operator : Comparison} {left right : Term} (exactLeft : left.Exact context)
    (exactRight : right.Exact context) : (Term.compare operator left right).Exact context := by
  intro result evaluated
  rw [Term.evaluate] at evaluated
  obtain ⟨pair, found, rfl⟩ := map_eq_ok_iff.1 evaluated
  obtain ⟨_, _, _, _, rfl, _, _, checkedLeft, checkedRight⟩ := exactLeft.bothKnown exactRight found
  refine ⟨.boolean, rfl, ?_⟩
  rw [Term.check]
  exact checkTest_eq_ok_iff.2
    ⟨rfl, List.forall_mem_cons.2 ⟨⟨_, checkedLeft⟩, List.forall_mem_singleton.2 ⟨_, checkedRight⟩⟩⟩

theorem arithmetic {operator : Arithmetic} {left right : Term} (exactLeft : left.Exact context)
    (exactRight : right.Exact context) :
    (Term.arithmetic operator left right).Exact context := by
  intro result evaluated
  rw [Term.evaluate] at evaluated
  obtain ⟨pair, found, evaluated⟩ := bind_eq_ok_iff.1 evaluated
  obtain ⟨_, _, leftKind, rightKind, rfl, sameLeft, sameRight, checkedLeft, checkedRight⟩ :=
    exactLeft.bothKnown exactRight found
  obtain ⟨numericLeft, numericRight, kind, same, foreseen⟩ :=
    kind_of_calculate sameLeft sameRight evaluated
  refine ⟨kind, same, ?_⟩
  rw [Term.check]
  refine checkArithmetic_eq_ok_iff.2 ⟨_, _, checkedLeft, checkedRight, ?_, ?_, foreseen⟩
  · simpa using numericLeft
  · simpa using numericRight

theorem negate {operand : Term} (exact : operand.Exact context) :
    (Term.negate operand).Exact context := by
  intro result evaluated
  rw [Term.evaluate] at evaluated
  obtain ⟨value, found, evaluated⟩ := bind_eq_ok_iff.1 evaluated
  obtain ⟨kind, same, checked⟩ := exact value found
  obtain ⟨numeric, sameResult⟩ := kind_of_negated same evaluated
  refine ⟨kind, sameResult, ?_⟩
  rw [Term.check]
  refine checkNegation_eq_ok_iff.2 ⟨checked, ?_⟩
  simpa using numeric

end Term.Exact

/-- **Where everything is known, evaluating is checking.**  If every property of a term has a value
that is not null, and neither `ANY` nor `IN` occurs in the term, then it evaluates only to values
that are not null, and is checked to be of their kind. -/
theorem Term.exact {term : Term} (only : term.Only fun kind => kind ≠ .any ∧ kind ≠ .inList)
    (known : ∀ name, term.Mentions name → ∃ value, context name = .ok value ∧ value ≠ .null) :
    term.Exact context := by
  induction only with
  | @node term root _ ih =>
    have exact : ∀ operand ∈ term.operands, operand.Exact context := by
      intro operand member
      exact ih operand member fun name mentioned => known name (.inside member mentioned)
    cases term with
    | property name => exact .property (known name .here)
    | literal content => exact .literal content
    | connect operator left right =>
      exact .connect (exact left (by simp [operands])) (exact right (by simp [operands]))
    | not operand => exact .not (exact operand (by simp [operands]))
    | isNull operand => exact .isNull (exact operand (by simp [operands]))
    | between value low high =>
      exact .between (exact value (by simp [operands])) (exact low (by simp [operands]))
        (exact high (by simp [operands]))
    | inList value items => exact absurd rfl root.2
    | like subject pattern =>
      exact .like (exact subject (by simp [operands])) (exact pattern (by simp [operands]))
    | compare operator left right =>
      exact .compare (exact left (by simp [operands])) (exact right (by simp [operands]))
    | any operands => exact absurd rfl root.1
    | arithmetic operator left right =>
      exact .arithmetic (exact left (by simp [operands])) (exact right (by simp [operands]))
    | negate operand => exact .negate (exact operand (by simp [operands]))

end Terms

/-! ## Finished expressions -/

namespace Expression

section Rejected

variable [Engine] {requests : List Builder.Request} {root : Nat} {expression : Expression}
  {schema : Schema} {context : Context}

/-- An expression that has a value was accepted, with the kind of the value or an unknown one. -/
theorem check_of_evaluate (built : (Builder.after requests).build root = .ok expression)
    (without : ∀ (id : Nat) (node : Node), expression.nodes[id]? = some node →
      node.kind ≠ .any ∧ node.kind ≠ .inList)
    (known : ∀ name ∈ expression.identifiers, ∃ value, context name = .ok value ∧
      value ≠ .null ∧ ∀ kind, schema name = some kind → value.kind = some kind)
    {value : Value} (evaluated : expression.term.evaluate context = .ok value) :
    ∃ kind, expression.term.check schema = .ok kind ∧ Informs none kind value.kind := by
  obtain ⟨_, sameNodes, _⟩ := Builder.build_eq_ok_iff.1 built
  have only : expression.term.Only fun kind => kind ≠ .any ∧ kind ≠ .inList :=
    (Builder.forest_after requests).only (sameNodes ▸ without) (Builder.termAt_root built)
  have mentioned : ∀ name, expression.term.Mentions name → name ∈ expression.identifiers :=
    fun name => mem_identifiers_of_mentions built
  obtain ⟨kind, same, checked⟩ := Term.exact only (fun name inside => by
    obtain ⟨value, found, notNull, _⟩ := known name (mentioned name inside)
    exact ⟨value, found, notNull⟩) value evaluated
  rw [same]
  refine Term.check_of_informed (fun name inside => ?_) checked
  obtain ⟨value, found, _, agrees⟩ := known name (mentioned name inside)
  cases isKnown : schema name with
  | none => exact Or.inl rfl
  | some kind =>
    rw [Schema.ofContext, found]
    exact Or.inr (agrees kind isKnown)

/-- **What the checker rejects has no value.**  Let neither `ANY` nor `IN` occur in an expression,
and let every identifier have a value that is not null, and of the kind that the schema knows for
it, if it knows any.  If the check fails, so does evaluation.  If the check finds a kind that no
predicate may have, evaluation fails or gives something else than a boolean. -/
theorem evaluate_of_rejected (built : (Builder.after requests).build root = .ok expression)
    (without : ∀ (id : Nat) (node : Node), expression.nodes[id]? = some node →
      node.kind ≠ .any ∧ node.kind ≠ .inList)
    (known : ∀ name ∈ expression.identifiers, ∃ value, context name = .ok value ∧
      value ≠ .null ∧ ∀ kind, schema name = some kind → value.kind = some kind) :
    (∀ error, expression.term.check schema = .error error →
      ∃ failure, expression.term.evaluate context = .error failure) ∧
    ∀ kind error, expression.term.check schema = .ok kind →
      expression.term.checkPredicate schema = .error error →
      (∃ failure, expression.term.evaluate context = .error failure) ∨
        ∃ value, expression.term.evaluate context = .ok value ∧ ∀ b, value ≠ .boolean b := by
  have accepted := @check_of_evaluate _ _ _ _ schema context built without known
  constructor
  · intro error rejected
    rw [exists_error_iff]
    intro value evaluated
    obtain ⟨_, checked, _⟩ := accepted evaluated
    cases rejected.symm.trans checked
  · intro kind error checked rejected
    cases result : expression.term.evaluate context with
    | error failure => exact Or.inl ⟨failure, rfl⟩
    | ok value =>
      refine Or.inr ⟨value, rfl, ?_⟩
      rintro b rfl
      obtain ⟨kind', checked', informs⟩ := accepted result
      have predicate : expression.term.checkPredicate schema = .ok () := by
        rw [Term.checkPredicate_eq_ok_iff, checked']
        rcases informs with rfl | same
        · exact Or.inl rfl
        · exact Or.inr (congrArg Except.ok same.symm)
      cases rejected.symm.trans predicate

end Rejected

/-- A range from a number to a string is rejected also when nothing is known about the value, and no
value lies in it.  A string is checked, but no predicate, and its value is no boolean. -/
theorem evaluate_of_rejected_range :
    let schema : Schema := fun name => if name = "s" then some .string else none
    let context : Context := fun name => .ok (if name = "s" then .string "9" else .integer 5)
    (∃ expression,
      (Builder.after [(.property "n", []), (.literal (.number (.integer 1)), []),
        (.property "s", []), (.between, [0, 1, 2])]).build 3 = .ok expression ∧
      expression.term.check schema = .error ⟨"BETWEEN", .numericOrStrings, .string⟩ ∧
      ∃ failure, @Term.evaluate Engine.direct context expression.term = .error failure) ∧
    ∃ expression value,
      (Builder.after [(.property "s", [])]).build 0 = .ok expression ∧
      expression.term.check schema = .ok (some .string) ∧
      (∃ error, expression.term.checkPredicate schema = .error error) ∧
      @Term.evaluate Engine.direct context expression.term = .ok value ∧
      ∀ b, value ≠ .boolean b := by
  intro schema context
  have known (names : List String) : ∀ name ∈ names, ∃ value, context name = .ok value ∧
      value ≠ .null ∧ ∀ kind, schema name = some kind → value.kind = some kind := by
    intro name _
    by_cases isText : name = "s"
    · exact ⟨.string "9", by simp [context, isText], by simp, by simp [schema, isText, Value.kind]⟩
    · exact ⟨.integer 5, by simp [context, isText], by simp, by simp [schema, isText]⟩
  constructor
  · let requests : List Builder.Request :=
      [(.property "n", []), (.literal (.number (.integer 1)), []), (.property "s", []),
        (.between, [0, 1, 2])]
    obtain ⟨expression, built, kinds, same⟩ : ∃ expression, (Builder.after requests).build 3 =
        .ok expression ∧
        expression.nodes.toList.map Node.kind =
          [.property "n", .literal (.number (.integer 1)), .property "s", .between] ∧
        expression.term =
          .between (.property "n") (.literal (.number (.integer 1))) (.property "s") :=
      ⟨_, rfl, rfl, rfl⟩
    have without : ∀ (id : Nat) (node : Node), expression.nodes[id]? = some node →
        node.kind ≠ .any ∧ node.kind ≠ .inList :=
      @Node.forall_of_kinds _ _ (fun kind => kind ≠ .any ∧ kind ≠ .inList) kinds (by simp)
    have rejected : expression.term.check schema =
        .error ⟨"BETWEEN", .numericOrStrings, .string⟩ := by
      rw [same]
      simp only [Term.check]
      rfl
    exact ⟨expression, built, rejected, (@evaluate_of_rejected Engine.direct requests 3 expression
      schema context built without (known _)).1 _ rejected⟩
  · obtain ⟨expression, built, kinds, same⟩ : ∃ expression,
        (Builder.after [(.property "s", [])]).build 0 = .ok expression ∧
        expression.nodes.toList.map Node.kind = [.property "s"] ∧
        expression.term = .property "s" := ⟨_, rfl, rfl, rfl⟩
    have without : ∀ (id : Nat) (node : Node), expression.nodes[id]? = some node →
        node.kind ≠ .any ∧ node.kind ≠ .inList :=
      @Node.forall_of_kinds _ _ (fun kind => kind ≠ .any ∧ kind ≠ .inList) kinds (by simp)
    have checked : expression.term.check schema = .ok (some .string) := by
      rw [same]
      simp only [Term.check]
      rfl
    obtain ⟨error, rejected⟩ : ∃ error, expression.term.checkPredicate schema = .error error := by
      rw [Term.checkPredicate, checked]
      exact ⟨_, rfl⟩
    have evaluated : @Term.evaluate Engine.direct context expression.term = .ok (.string "9") := by
      rw [same]
      simp only [Term.evaluate]
      rfl
    rcases (@evaluate_of_rejected Engine.direct _ 0 expression schema context built without
      (known _)).2 _ error checked rejected with ⟨failure, failed⟩ | ⟨value, found, noTruth⟩
    · cases evaluated.symm.trans failed
    · exact ⟨expression, value, built, checked, ⟨error, rejected⟩, found, noTruth⟩

end Expression

end Sift
