import Sift.Proofs.Expression.Regrouping

/-!
# Searches as disjunctions

`IN` and `ANY` look through a list and stop as soon as they are true.  A disjunction of the same
alternatives looks at all of them, and the two differ in nothing but that, or in little more:

* `IN` has the outcome of the disjunction of its equalities, except that it may be true where the
  disjunction fails at an item behind the one that was found (`memberTruth_shortcut`).
* `ANY` is true or false where the disjunction is.  Where the disjunction is unknown, `ANY` is so
  only if no operand is known, and else it is false (`anyTruth_of_combineRun`).  Neither of these
  selects a candidate.

The disjunctions are chains that lean to the left (`Term.chain`), as they are written without
parentheses.
-/

set_option autoImplicit false

namespace Sift

/-! ## Chains -/

/-- The operands of one connective in a chain that leans to the left. -/
def Term.chain (operator : Connective) (first : Term) (later : List Term) : Term :=
  later.foldl (.connect operator) first

/-- A chain is a tree of its connective. -/
theorem Term.Groups.chain {operator : Connective} {operands : List Term} {first : Term}
    (groups : Groups operator operands first) (later : List Term) :
    Groups operator (operands ++ later) (Term.chain operator first later) := by
  induction later generalizing operands first with
  | nil => rwa [List.append_nil]
  | cons next rest ih =>
    have longer := ih (.node groups (.operand next))
    rwa [List.append_assoc, List.singleton_append] at longer

theorem Term.evaluate_chain [Engine] (context : Context) (operator : Connective) (first : Term)
    (later : List Term) :
    (Term.chain operator first later).evaluate context =
      operator.joined ((first :: later).map fun operand => operand.evaluate context) :=
  ((Groups.operand first).chain later).evaluate

/-! ## Runs of truth values -/

/-- Operands that are truth values are joined as such, also if there is only one. -/
theorem Connective.joined_map_ofTruth (operator : Connective)
    (truths : List (Except EvaluationError Truth)) :
    operator.joined (truths.map fun truth => truth.map Value.ofTruth) =
      (combineRun operator operator.neutral
        (truths.map fun truth => truth.map Value.ofTruth)).map Value.ofTruth := by
  by_cases single : truths.length = 1
  · obtain ⟨truth, rfl⟩ := List.length_eq_one_iff.1 single
    simp only [List.map_cons, List.map_nil, joined, combineRun, Outcome.truth_map_ofTruth,
      operator.combine_neutral]
    cases truth <;> rfl
  · exact joined_of_length (by rwa [List.length_map])

/-- A run has a truth value exactly if all of its operands have one. -/
theorem combineRun_eq_ok_iff {operator : Connective} {known truth : Truth}
    {outcomes : List Outcome} :
    combineRun operator known outcomes = .ok truth ↔
      ∃ truths : List Truth, outcomes = truths.map (fun truth => .ok (Value.ofTruth truth)) ∧
        truths.foldl operator.combine known = truth := by
  induction outcomes generalizing known with
  | nil =>
    constructor
    · rintro ⟨⟩
      exact ⟨[], rfl, rfl⟩
    · rintro ⟨truths, none, rfl⟩
      obtain rfl := List.map_eq_nil_iff.1 none.symm
      rfl
  | cons outcome rest ih =>
    simp only [combineRun, bind_eq_ok_iff, Outcome.truth_eq_ok_iff, ih]
    constructor
    · rintro ⟨first, rfl, truths, rfl, combined⟩
      exact ⟨first :: truths, rfl, combined⟩
    · rintro ⟨_ | ⟨first, truths⟩, same, combined⟩
      · cases same
      · obtain ⟨rfl, rfl⟩ := List.cons.inj same
        exact ⟨first, rfl, truths, rfl, combined⟩

/-- A disjunction is true if one operand is, else unknown if one operand is, and else false. -/
theorem foldl_or (truths : List Truth) (known : Truth) :
    truths.foldl Connective.or.combine known =
      if some true ∈ known :: truths then some true
      else if none ∈ known :: truths then none else some false := by
  induction truths generalizing known with
  | nil => rcases known with _ | _ | _ <;> rfl
  | cons truth rest ih =>
    rw [List.foldl_cons, ih]
    rcases known with _ | _ | _ <;> rcases truth with _ | _ | _ <;>
      simp [Connective.combine, Truth.or]

/-! ## Items -/

/-- Whether an item is equal to a value, unless one of them is unknown. -/
def equalTruth (value item : Outcome) : Except EvaluationError Truth :=
  value.bind fun value =>
    if value.isNull then .ok none
    else item.map fun item =>
      if item.isNull then none else some (Comparison.eq.holdsOf value item)

theorem compareOutcome_eq (value item : Outcome) :
    compareOutcome .eq value item = (equalTruth value item).map Value.ofTruth := by
  unfold compareOutcome bothKnown equalTruth
  rcases value with error | value
  · rfl
  · rcases item with error | item
    · cases unknown : value.isNull <;> simp [Except.bind, Except.map, unknown, Value.ofTruth]
    · cases unknown : value.isNull <;> cases unknown' : item.isNull <;>
        simp [Except.bind, Except.map, unknown, unknown', Value.ofTruth]

/-- Two searches for something true.  They have the same outcome, or the first one has found it in
front of where the other fails. -/
def Shortcut (quick full : Except EvaluationError Truth) : Prop :=
  quick = full ∨ quick = .ok (some true) ∧ ∃ error, full = .error error

/-- What is true stays true in a disjunction, unless an operand fails. -/
theorem shortcut_of_true (outcomes : List Outcome) :
    Shortcut (.ok (some true)) (combineRun .or (some true) outcomes) := by
  unfold Shortcut
  rw [combineRun_eq_map]
  cases combineRun .or Connective.or.neutral outcomes with
  | error error => exact Or.inr ⟨rfl, error, rfl⟩
  | ok truth => exact Or.inl rfl

/-- **The search among items is a shortcut of the disjunction of equalities.**  As long as nothing
is found, both know the same: that an item was unknown, or that all were different. -/
theorem memberTruth_shortcut {value : Value} (known : value.isNull = false) {seen : Truth}
    (notFound : seen ≠ some true) (items : List Outcome) :
    Shortcut (memberTruth value seen items)
      (combineRun .or seen (items.map fun item => compareOutcome .eq (.ok value) item)) := by
  induction items generalizing seen with
  | nil => exact Or.inl rfl
  | cons item rest ih =>
    simp only [List.map_cons, memberTruth, combineRun]
    rw [compareOutcome_eq, Outcome.truth_map_ofTruth]
    rcases item with error | item
    · simp [equalTruth, Except.bind, Except.map, known, Shortcut]
    · simp only [equalTruth, Except.bind, Except.map, known, Bool.false_eq_true, if_false]
      by_cases unknown : item.isNull = true
      · have combined : Connective.or.combine seen none = none := by
          rcases seen with _ | _ | _
          · rfl
          · rfl
          · exact absurd rfl notFound
        rw [if_pos unknown, if_pos unknown, combined]
        exact ih (Option.some_ne_none true).symm
      · rw [if_neg unknown, if_neg unknown]
        cases same : Comparison.eq.holdsOf value item with
        | true =>
          have combined : Connective.or.combine seen (some true) = some true := by
            rcases seen with _ | _ | _ <;> rfl
          rw [if_pos rfl, combined]
          exact shortcut_of_true _
        | false =>
          have combined : Connective.or.combine seen (some false) = seen :=
            (Connective.or.combine_comm _ _).trans (Connective.or.combine_neutral seen)
          rw [if_neg Bool.false_ne_true, combined]
          exact ih notFound

/-- The disjunction of the equalities of one value with items. -/
theorem joined_equalities (value : Outcome) (items : List Outcome) :
    Connective.or.joined (items.map fun item => compareOutcome .eq value item) =
      (combineRun .or (some false)
        (items.map fun item => compareOutcome .eq value item)).map Value.ofTruth := by
  have truths : (items.map fun item => compareOutcome .eq value item) =
      (items.map fun item => equalTruth value item).map fun truth => truth.map Value.ofTruth := by
    rw [List.map_map]
    exact List.map_congr_left fun item _ => compareOutcome_eq value item
  rw [truths]
  exact Connective.or.joined_map_ofTruth _

/-- `IN` is a shortcut of the disjunction of its equalities. -/
theorem inOutcome_shortcut (value first : Outcome) (later : List Outcome) :
    ∃ quick, inOutcome value (first :: later) = quick.map Value.ofTruth ∧
      Shortcut quick (combineRun .or (some false)
        ((first :: later).map fun item => compareOutcome .eq value item)) := by
  rcases value with error | value
  · exact ⟨.error error, rfl, Or.inl rfl⟩
  · cases unknown : value.isNull with
    | true =>
      -- every equality is unknown, and so is their disjunction
      refine ⟨.ok none, by simp [inOutcome, Except.bind, Except.map, unknown, Value.ofTruth],
        Or.inl ?_⟩
      have equalities : ((first :: later).map fun item => compareOutcome .eq (.ok value) item) =
          ((first :: later).map fun _ => none).map fun truth => .ok (Value.ofTruth truth) := by
        simp [compareOutcome_eq, equalTruth, Except.bind, Except.map, unknown]
      refine (combineRun_eq_ok_iff.2 ⟨_, equalities, ?_⟩).symm
      rw [foldl_or]
      simp
    | false =>
      have notFound : some false ≠ some true := by decide
      refine ⟨memberTruth value (some false) (first :: later), ?_,
        memberTruth_shortcut unknown notFound _⟩
      simp [inOutcome, Except.bind, unknown]

/-! ## Operands of `ANY` -/

/-- What `ANY` answers, in the second place, where the disjunction of its operands has an answer. -/
inductive AnyAnswers (outcomes : List Outcome) : Truth → Truth → Prop where
  | known (b : Bool) : AnyAnswers outcomes (some b) (some b)
  | unknown (all : ∀ outcome ∈ outcomes, outcome = .ok .null) : AnyAnswers outcomes none none
  | partly (notAll : ∃ outcome ∈ outcomes, outcome ≠ .ok .null) :
    AnyAnswers outcomes none (some false)

/-- Both answers select a candidate or neither does. -/
theorem AnyAnswers.selects {outcomes : List Outcome} {truth answer : Truth}
    (answers : AnyAnswers outcomes truth answer) :
    (Value.ofTruth answer).selects = (Value.ofTruth truth).selects := by
  cases answers <;> rfl

/-- **Where a disjunction has a truth value, `ANY` has the same one, but for what is only partly
unknown.** -/
theorem anyTruth_of_combineRun {outcomes : List Outcome} (nonempty : outcomes ≠ []) {truth : Truth}
    (found : combineRun .or (some false) outcomes = .ok truth) :
    ∃ answer, anyTruth none outcomes = .ok answer ∧ AnyAnswers outcomes truth answer := by
  obtain ⟨truths, rfl, rfl⟩ := combineRun_eq_ok_iff.1 found
  have nonempty : truths ≠ [] := fun none => nonempty (List.map_eq_nil_iff.2 none)
  refine ⟨_, anyTruth_known truths none, ?_⟩
  rw [foldl_or]
  by_cases hasTrue : some true ∈ truths
  · simpa [hasTrue] using .known true
  by_cases hasFalse : some false ∈ truths
  · by_cases hasNone : none ∈ truths
    · have notAll : ∃ outcome ∈ truths.map fun truth => .ok (Value.ofTruth truth),
          outcome ≠ (.ok .null : Outcome) := ⟨_, List.mem_map_of_mem hasFalse, nofun⟩
      simpa [hasTrue, hasFalse, hasNone] using AnyAnswers.partly notAll
    · simpa [hasTrue, hasFalse, hasNone] using .known false
  · have unknown : ∀ truth ∈ truths, truth = none := by
      rintro (_ | _ | _) member
      · rfl
      · exact absurd member hasFalse
      · exact absurd member hasTrue
    have all : ∀ outcome ∈ truths.map fun truth => .ok (Value.ofTruth truth),
        outcome = (.ok .null : Outcome) :=
      List.forall_mem_map.2 fun truth member => by rw [unknown truth member]; rfl
    have hasNone : none ∈ truths := by
      obtain ⟨first, rest, rfl⟩ := List.exists_cons_of_ne_nil nonempty
      exact unknown first (List.mem_cons_self ..) ▸ List.mem_cons_self ..
    simpa [hasTrue, hasFalse, hasNone] using AnyAnswers.unknown all

/-- `ANY` has come to every operand, unless it is true. -/
theorem known_of_anyTruth {outcomes : List Outcome} {seen answer : Truth}
    (found : anyTruth seen outcomes = .ok answer) :
    answer = some true ∨
      ∃ truths : List Truth, outcomes = truths.map fun truth => .ok (Value.ofTruth truth) := by
  induction outcomes generalizing seen with
  | nil => exact Or.inr ⟨[], rfl⟩
  | cons outcome rest ih =>
    have goesOn {truth : Truth} (isTruth : Outcome.truth "ANY" outcome = .ok truth)
        {seen : Truth} (found : anyTruth seen rest = .ok answer) :
        answer = some true ∨ ∃ truths : List Truth,
          outcome :: rest = truths.map fun truth => .ok (Value.ofTruth truth) := by
      refine (ih found).imp_right ?_
      rintro ⟨truths, rfl⟩
      exact ⟨truth :: truths, by rw [Outcome.truth_eq_ok_iff.1 isTruth]; rfl⟩
    rw [anyTruth] at found
    split at found
    case h_1 => cases found
    case h_2 => exact Or.inl (Except.ok.inj found).symm
    case h_3 isTruth => exact goesOn isTruth found
    case h_4 isTruth => exact goesOn isTruth found

/-! ## Terms -/

/-- **`IN` is a disjunction of equalities.**  Let the value be compared with each of the items, and
the equalities be joined by `OR`, or left alone if there is only one.  If that has a value then `IN`
has it.  If `IN` fails then the disjunction fails with the same error.  Conversely the disjunction
only fails if `IN` does, or if `IN` is true already. -/
theorem Term.evaluate_inList_alternatives [Engine] (context : Context) (value first : Term)
    (later : List Term) :
    (∀ result,
      (chain .or (.compare .eq value first) (later.map (.compare .eq value))).evaluate context =
        .ok result → (Term.inList value (first :: later)).evaluate context = .ok result) ∧
    (∀ error, (Term.inList value (first :: later)).evaluate context = .error error →
      (chain .or (.compare .eq value first) (later.map (.compare .eq value))).evaluate context =
        .error error) ∧
    ∀ error,
      (chain .or (.compare .eq value first) (later.map (.compare .eq value))).evaluate context =
        .error error →
      (Term.inList value (first :: later)).evaluate context = .error error ∨
        (Term.inList value (first :: later)).evaluate context = .ok (.boolean true) := by
  have equalities : (chain .or (.compare .eq value first)
      (later.map (.compare .eq value))).evaluate context = (combineRun .or (some false)
        (((first :: later).map fun item => item.evaluate context).map
          fun item => compareOutcome .eq (value.evaluate context) item)).map Value.ofTruth := by
    rw [evaluate_chain, ← joined_equalities, ← List.map_cons, List.map_map, List.map_map]
    refine congrArg _ (List.map_congr_left fun item _ => ?_)
    exact evaluate.eq_def context (.compare .eq value item)
  obtain ⟨quick, found, shortcut⟩ := inOutcome_shortcut (value.evaluate context)
    (first.evaluate context) (later.map fun item => item.evaluate context)
  have found : (Term.inList value (first :: later)).evaluate context = quick.map Value.ofTruth := by
    rw [evaluate]
    exact found
  rw [equalities, found]
  rcases shortcut with rfl | ⟨rfl, error, failed⟩
  · exact ⟨fun _ same => same, fun _ same => same, fun _ same => Or.inl same⟩
  · rw [List.map_cons, failed]
    refine ⟨fun _ same => ?_, fun _ same => ?_, fun _ _ => Or.inr rfl⟩ <;> cases same

/-- An integer is found among a null, a text and the float that it is equal to, and it is not found
before an item that fails. -/
theorem Term.evaluate_inList_alternatives_mixed :
    let context : Context := fun name =>
      if name = "v" then .ok (.integer 1) else if name = "u" then .ok .null
      else if name = "s" then .ok (.string "1") else if name = "f" then .ok (.float 1)
      else .error (.unbound name)
    let v := Term.property "v"
    let u := Term.property "u"
    let s := Term.property "s"
    let f := Term.property "f"
    let g := Term.property "g"
    @Term.evaluate Engine.direct context (.inList v [u, s, f]) = .ok (.boolean true) ∧
      @Term.evaluate Engine.direct context (chain .or (.compare .eq v u) [.compare .eq v g]) =
        .error (.unbound "g") := by
  intro context v u s f g
  let : Engine := Engine.direct
  have isV : v.evaluate context = .ok (.integer 1) := by rw [Term.evaluate]; rfl
  have isU : u.evaluate context = .ok .null := by rw [Term.evaluate]; rfl
  have isS : s.evaluate context = .ok (.string "1") := by rw [Term.evaluate]; rfl
  have isF : f.evaluate context = .ok (.float 1) := by rw [Term.evaluate]; rfl
  have isG : g.evaluate context = .error (.unbound "g") := by rw [Term.evaluate]; rfl
  obtain ⟨valued, _, _⟩ := evaluate_inList_alternatives context v u [s, f]
  obtain ⟨_, failing, _⟩ := evaluate_inList_alternatives context v u [g]
  refine ⟨valued _ ?_, failing _ ?_⟩
  · simp only [evaluate_chain, List.map_cons, List.map_nil, evaluate, isV, isU, isS, isF]
    rfl
  · simp only [evaluate, List.map_cons, List.map_nil, isV, isU, isG]
    rfl

/-- **`ANY` and the disjunction of its operands.**  Where the disjunction has a value, `ANY` is true
or false if that is; and if it is null then `ANY` is null if every operand is, and else false.  So
the two select the same candidates wherever the disjunction has a value.  If `ANY` fails then so
does the disjunction, and if only the disjunction fails then `ANY` is true. -/
theorem Term.evaluate_any_alternatives [Engine] (context : Context) (first second : Term)
    (later : List Term) :
    (∀ result, (chain .or first (second :: later)).evaluate context = .ok result →
      ∃ truth answer, result = Value.ofTruth truth ∧
        (Term.any (first :: second :: later)).evaluate context = .ok (Value.ofTruth answer) ∧
        AnyAnswers ((first :: second :: later).map fun operand => operand.evaluate context)
          truth answer ∧
        (Value.ofTruth answer).selects = result.selects) ∧
    (∀ error, (Term.any (first :: second :: later)).evaluate context = .error error →
      ∃ error', (chain .or first (second :: later)).evaluate context = .error error') ∧
    ∀ error, (chain .or first (second :: later)).evaluate context = .error error →
      (∃ error', (Term.any (first :: second :: later)).evaluate context = .error error') ∨
        (Term.any (first :: second :: later)).evaluate context = .ok (.boolean true) := by
  have disjunction : (chain .or first (second :: later)).evaluate context =
      (combineRun .or (some false)
        ((first :: second :: later).map fun operand => operand.evaluate context)).map
          Value.ofTruth := by
    rw [evaluate_chain]
    exact Connective.joined_of_length (by simp)
  have answered {truth : Truth} (found : combineRun .or (some false)
      ((first :: second :: later).map fun operand => operand.evaluate context) = .ok truth) :=
    anyTruth_of_combineRun (by simp) found
  rw [disjunction, evaluate]
  refine ⟨fun result found => ?_, fun error failed => ?_, fun error failed => ?_⟩
  · obtain ⟨truth, combined, rfl⟩ := map_eq_ok_iff.1 found
    obtain ⟨answer, found, answers⟩ := answered combined
    exact ⟨truth, answer, rfl, map_eq_ok_iff.2 ⟨answer, found, rfl⟩, answers, answers.selects⟩
  · rw [map_eq_error_iff] at failed
    refine exists_error_iff.2 fun result found => ?_
    obtain ⟨truth, combined, rfl⟩ := map_eq_ok_iff.1 found
    obtain ⟨answer, found, _⟩ := answered combined
    rw [failed] at found
    cases found
  · cases found : anyTruth none
      ((first :: second :: later).map fun operand => operand.evaluate context) with
    | error error' => exact Or.inl ⟨error', rfl⟩
    | ok answer =>
      rcases known_of_anyTruth found with rfl | known
      · exact Or.inr rfl
      · obtain ⟨truths, known⟩ := known
        rw [map_eq_error_iff, combineRun_eq_ok_iff.2 ⟨truths, known, rfl⟩] at failed
        cases failed

/-- Of a null and a false operand the disjunction is null and `ANY` is false, so that neither
selects. -/
theorem Term.evaluate_any_alternatives_partly :
    let context : Context := fun name =>
      .ok (if name = "u" then .null else .boolean false)
    let u := Term.property "u"
    let b := Term.property "b"
    @Term.evaluate Engine.direct context (chain .or u [b]) = .ok .null ∧
      ∃ truth answer, Value.null = Value.ofTruth truth ∧
        @Term.evaluate Engine.direct context (.any [u, b]) = .ok (Value.ofTruth answer) ∧
        AnyAnswers [.ok .null, .ok (.boolean false)] truth answer ∧
        (Value.ofTruth answer).selects = Value.null.selects := by
  intro context u b
  let : Engine := Engine.direct
  have isU : u.evaluate context = .ok .null := by rw [Term.evaluate]; rfl
  have isB : b.evaluate context = .ok (.boolean false) := by rw [Term.evaluate]; rfl
  have disjunction : (chain .or u [b]).evaluate context = .ok .null := by
    rw [evaluate_chain, List.map_cons, List.map_cons, isU, isB]
    rfl
  refine ⟨disjunction, ?_⟩
  have answered := (evaluate_any_alternatives context u b []).1 _ disjunction
  simpa only [List.map_cons, List.map_nil, isU, isB] using answered

end Sift
