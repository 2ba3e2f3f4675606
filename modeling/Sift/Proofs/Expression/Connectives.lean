import Sift.Expression.Evaluation
import Sift.Expression.Typing
import Sift.Proofs.Expression.Structure
import Sift.Proofs.Failure

/-!
# Connectives without runs

Evaluation and checking treat a run of a connective as one flat node.  Both can be said without
runs, and everything proved by induction on terms uses them in that form.  A connective evaluates
its left and then its right side and combines their truth values (`Term.evaluate_connect_eq`), and
it has a kind exactly when both sides are truth values as far as is known
(`Term.check_connect_eq_ok_iff`).
-/

set_option autoImplicit false

namespace Sift

/-! ## Evaluation -/

/-- The truth value of an operand is the one that its value came from. -/
theorem Outcome.truth_eq_ok_iff {operator : String} {outcome : Outcome} {truth : Truth} :
    Outcome.truth operator outcome = .ok truth ↔ outcome = .ok (Value.ofTruth truth) := by
  cases outcome with
  | error error => exact ⟨nofun, nofun⟩
  | ok value => cases value <;> rcases truth with _ | b <;>
      simp [Outcome.truth, Except.bind, truthOf, Value.ofTruth]

/-- A truth value that became a value is found again. -/
@[simp] theorem Outcome.truth_map_ofTruth (operator : String)
    (result : Except EvaluationError Truth) :
    Outcome.truth operator (result.map Value.ofTruth) = result := by
  cases result with
  | error error => rfl
  | ok truth =>
    cases truth with
    | none => rfl
    | some b => rfl

theorem combineRun_append (operator : Connective) (known : Truth) (first later : List Outcome) :
    combineRun operator known (first ++ later) =
      (combineRun operator known first).bind fun known => combineRun operator known later := by
  induction first generalizing known with
  | nil => rfl
  | cons outcome rest ih =>
    simp only [List.cons_append, combineRun]
    cases Outcome.truth operator.name outcome with
    | error error => rfl
    | ok truth => exact ih _

/-- A run with one more operand combines the truth value of the run with that of the operand. -/
theorem runTruth_concat (operator : Connective) {outcomes : List Outcome}
    (some : outcomes ≠ []) (last : Outcome) :
    runTruth operator (outcomes ++ [last]) =
      (runTruth operator outcomes).bind fun known =>
        (Outcome.truth operator.name last).map fun truth => operator.combine known truth := by
  obtain ⟨first, rest, rfl⟩ := List.exists_cons_of_ne_nil some
  simp only [List.cons_append, runTruth]
  cases Outcome.truth operator.name first with
  | error error => rfl
  | ok truth =>
    refine (combineRun_append operator truth rest [last]).trans ?_
    refine congrArg (Except.bind _) (funext fun known => ?_)
    simp only [combineRun]
    cases Outcome.truth operator.name last with
    | error error => rfl
    | ok truth => rfl

/-- The truth value of the run that ends in a term is that of the term. -/
theorem Term.runTruth_runBefore [Engine] (context : Context) (operator : Connective) (term : Term) :
    runTruth operator ((term.runBefore operator []).map fun operand => operand.evaluate context) =
      Outcome.truth operator.name (term.evaluate context) := by
  rcases term.runBefore_nil_cases operator with ⟨left, right, rfl, run⟩ | alone
  · rw [run, Term.evaluate_connect, Outcome.truth_map_ofTruth]
  · rw [alone]
    simp only [List.map_cons, List.map_nil, runTruth, combineRun]
    cases Outcome.truth operator.name (term.evaluate context) with
    | error error => rfl
    | ok truth => rfl

/-- **A connective evaluates its left side, then its right side, and combines them.** -/
theorem Term.evaluate_connect_eq [Engine] (context : Context) (operator : Connective)
    (left right : Term) :
    (Term.connect operator left right).evaluate context =
      (Outcome.truth operator.name (left.evaluate context)).bind fun known =>
        (Outcome.truth operator.name (right.evaluate context)).map fun truth =>
          Value.ofTruth (operator.combine known truth) := by
  have some : (left.runBefore operator []).map (fun operand => operand.evaluate context) ≠ [] := by
    rcases left.runBefore_nil_cases operator with ⟨first, second, _, run⟩ | alone
    · rw [run, Term.runOf_eq_append]
      simp
    · rw [alone]
      simp
  rw [Term.evaluate_connect, Term.runOf_eq_append, List.map_append, List.map_singleton,
    runTruth_concat operator some, Term.runTruth_runBefore]
  cases Outcome.truth operator.name (left.evaluate context) with
  | error error => rfl
  | ok known =>
    cases Outcome.truth operator.name (right.evaluate context) with
    | error error => rfl
    | ok truth => rfl

/-! ## Checking -/

/-- All operands have a kind, as far as it is known, exactly if there are no errors among them. -/
theorem kindsOf_eq_ok_iff {operands : List Checked} {kinds : List (Option Kind)} :
    kindsOf operands = .ok kinds ↔ operands = kinds.map .ok := by
  induction operands generalizing kinds with
  | nil =>
    cases kinds with
    | nil => exact ⟨fun _ => rfl, fun _ => rfl⟩
    | cons kind rest => exact ⟨nofun, nofun⟩
  | cons checked rest ih =>
    simp only [kindsOf, bind_eq_ok_iff, map_eq_ok_iff, ih]
    constructor
    · rintro ⟨kind, rfl, others, rfl, rfl⟩
      rfl
    · intro same
      cases kinds with
      | nil => cases same
      | cons kind others =>
        obtain ⟨rfl, rfl⟩ := List.cons.inj same
        exact ⟨kind, rfl, others, rfl, rfl⟩

theorem Demand.check_eq_ok_iff {demand : Demand} {context : String} {kind : Option Kind} :
    demand.check context kind = .ok () ↔ ∀ known ∈ kind, demand.accepts known = true := by
  cases kind with
  | none => simp [Demand.check]
  | some known =>
    cases accepted : demand.accepts known <;> simp [Demand.check, accepted]

theorem Demand.checkAll_eq_ok_iff {demand : Demand} {context : String}
    {kinds : List (Option Kind)} :
    demand.checkAll context kinds = .ok () ↔
      ∀ kind ∈ kinds, ∀ known ∈ kind, demand.accepts known = true := by
  induction kinds with
  | nil => exact ⟨fun _ => nofun, fun _ => rfl⟩
  | cons kind rest ih =>
    simp only [Demand.checkAll, bind_eq_ok_iff, ih, List.forall_mem_cons]
    constructor
    · rintro ⟨_, first, others⟩
      exact ⟨Demand.check_eq_ok_iff.1 first, others⟩
    · rintro ⟨first, others⟩
      exact ⟨(), Demand.check_eq_ok_iff.2 first, others⟩

/-- The kinds of operands that each have one. -/
theorem exists_kinds_iff {operands : List Checked} {accepted : Option Kind → Prop} :
    (∃ kinds, kindsOf operands = .ok kinds ∧ ∀ kind ∈ kinds, accepted kind) ↔
      ∀ operand ∈ operands, ∃ kind, operand = .ok kind ∧ accepted kind := by
  simp only [kindsOf_eq_ok_iff]
  constructor
  · rintro ⟨kinds, rfl, acceptedAll⟩ operand member
    obtain ⟨kind, kindMember, rfl⟩ := List.mem_map.1 member
    exact ⟨kind, rfl, acceptedAll kind kindMember⟩
  · intro acceptedAll
    induction operands with
    | nil => exact ⟨[], rfl, nofun⟩
    | cons operand rest ih =>
      obtain ⟨⟨kind, rfl, first⟩, others⟩ := List.forall_mem_cons.1 acceptedAll
      obtain ⟨kinds, rfl, acceptedRest⟩ := ih others
      exact ⟨kind :: kinds, rfl, List.forall_mem_cons.2 ⟨first, acceptedRest⟩⟩

/-- An operand of a kind, as far as it is known, that a demand accepts. -/
def Checked.Meets (checked : Checked) (demand : Demand) : Prop :=
  ∃ kind, checked = .ok kind ∧ ∀ known ∈ kind, demand.accepts known = true

/-- An operand of a known kind meets every demand that accepts the kind. -/
theorem Checked.meets_of_accepts {checked : Checked} {demand : Demand} {kind : Kind}
    (found : checked = .ok (some kind)) (accepted : demand.accepts kind = true) :
    checked.Meets demand := by
  refine ⟨some kind, found, ?_⟩
  rintro _ ⟨⟩
  exact accepted

theorem checkBooleans_eq_ok_iff {context : String} {operands : List Checked}
    {kind : Option Kind} :
    checkBooleans context operands = .ok kind ↔
      kind = some .boolean ∧ ∀ operand ∈ operands, operand.Meets .boolean := by
  simp only [checkBooleans, bind_eq_ok_iff, map_eq_ok_iff, Checked.Meets, ← exists_kinds_iff]
  constructor
  · rintro ⟨kinds, found, _, verdict, rfl⟩
    exact ⟨rfl, kinds, found, Demand.checkAll_eq_ok_iff.1 verdict⟩
  · rintro ⟨rfl, kinds, found, accepted⟩
    exact ⟨kinds, found, (), Demand.checkAll_eq_ok_iff.2 accepted, rfl⟩

theorem checkTest_eq_ok_iff {operands : List Checked} {kind : Option Kind} :
    checkTest operands = .ok kind ↔
      kind = some .boolean ∧ ∀ operand ∈ operands, ∃ kind, operand = .ok kind := by
  have known := @exists_kinds_iff operands fun _ => True
  simp only [implies_true, and_true] at known
  simp only [checkTest, map_eq_ok_iff, ← known]
  constructor
  · rintro ⟨kinds, found, rfl⟩
    exact ⟨rfl, kinds, found⟩
  · rintro ⟨rfl, kinds, found⟩
    exact ⟨kinds, found, rfl⟩

theorem checkLike_eq_ok_iff {subject pattern : Checked} {kind : Option Kind} :
    checkLike subject pattern = .ok kind ↔
      kind = some .boolean ∧ subject.Meets .string ∧ pattern.Meets .stringOrPattern := by
  simp only [checkLike, bind_eq_ok_iff, map_eq_ok_iff, Checked.Meets]
  constructor
  · rintro ⟨_, found, _, foundPattern, _, string, _, stringOrPattern, rfl⟩
    exact ⟨rfl, ⟨_, found, Demand.check_eq_ok_iff.1 string⟩,
      ⟨_, foundPattern, Demand.check_eq_ok_iff.1 stringOrPattern⟩⟩
  · rintro ⟨rfl, ⟨_, found, string⟩, ⟨_, foundPattern, stringOrPattern⟩⟩
    exact ⟨_, found, _, foundPattern, (), Demand.check_eq_ok_iff.2 string, (),
      Demand.check_eq_ok_iff.2 stringOrPattern, rfl⟩

theorem checkArithmetic_eq_ok_iff {operator : Arithmetic} {left right : Checked}
    {kind : Option Kind} :
    checkArithmetic operator left right = .ok kind ↔
      ∃ leftKind rightKind, left = .ok leftKind ∧ right = .ok rightKind ∧
        (∀ known ∈ leftKind, known.isNumeric = true) ∧
        (∀ known ∈ rightKind, known.isNumeric = true) ∧ resultKind leftKind rightKind = kind := by
  simp only [checkArithmetic, bind_eq_ok_iff, map_eq_ok_iff]
  constructor
  · rintro ⟨leftKind, foundLeft, rightKind, foundRight, _, numeric, result⟩
    have accepted := Demand.checkAll_eq_ok_iff.1 numeric
    exact ⟨leftKind, rightKind, foundLeft, foundRight, accepted _ (by simp), accepted _ (by simp),
      result⟩
  · rintro ⟨leftKind, rightKind, foundLeft, foundRight, numericLeft, numericRight, result⟩
    refine ⟨leftKind, foundLeft, rightKind, foundRight, (), ?_, result⟩
    exact Demand.checkAll_eq_ok_iff.2
      (List.forall_mem_cons.2 ⟨numericLeft, List.forall_mem_singleton.2 numericRight⟩)

theorem checkNegation_eq_ok_iff {operand : Checked} {kind : Option Kind} :
    checkNegation operand = .ok kind ↔
      operand = .ok kind ∧ ∀ known ∈ kind, known.isNumeric = true := by
  simp only [checkNegation, bind_eq_ok_iff, map_eq_ok_iff]
  constructor
  · rintro ⟨_, found, _, numeric, rfl⟩
    exact ⟨found, Demand.check_eq_ok_iff.1 numeric⟩
  · rintro ⟨found, numeric⟩
    exact ⟨kind, found, (), Demand.check_eq_ok_iff.2 numeric, rfl⟩

/-- The operands of a run are truth values exactly when those before its end are and the term in
which it ends is. -/
theorem Term.meets_runBefore (schema : Schema) (operator : Connective) (term : Term)
    (later : List Term) :
    (∀ operand ∈ term.runBefore operator later, (operand.check schema).Meets .boolean) ↔
      (term.check schema).Meets .boolean ∧
        ∀ operand ∈ later, (operand.check schema).Meets .boolean := by
  rw [Term.runBefore_append, List.forall_mem_append]
  refine and_congr_left fun _ => ?_
  rcases term.runBefore_nil_cases operator with ⟨left, right, rfl, run⟩ | alone
  · rw [run, Term.check_connect]
    constructor
    · intro booleans
      have accepted : Demand.boolean.accepts .boolean = true := rfl
      refine Checked.meets_of_accepts ?_ accepted
      exact checkBooleans_eq_ok_iff.2 ⟨rfl, List.forall_mem_map.2 booleans⟩
    · rintro ⟨kind, checked, _⟩ operand member
      exact (checkBooleans_eq_ok_iff.1 checked).2 _ (List.mem_map_of_mem member)
  · rw [alone, List.forall_mem_singleton]

/-- **A connective has a kind exactly when both sides are truth values as far as is known.** -/
theorem Term.check_connect_eq_ok_iff {schema : Schema} {operator : Connective}
    {left right : Term} {kind : Option Kind} :
    (Term.connect operator left right).check schema = .ok kind ↔
      kind = some .boolean ∧ (left.check schema).Meets .boolean ∧
        (right.check schema).Meets .boolean := by
  rw [Term.check_connect, checkBooleans_eq_ok_iff, List.forall_mem_map, Term.runOf,
    Term.meets_runBefore, List.forall_mem_singleton]

end Sift
