import Sift.Proofs.Expression.Information

/-!
# The order of operands

The connectives on truth values are associative and commutative, but failures come in between: the
first operand that fails decides the failure.  Bracketing keeps the order of the operands, and so it
changes neither the value nor the failure (`Term.Groups.evaluate`).  Another order of the operands
may fail with another error, yet it fails whenever one of the operands does, since a run never stops
early, and all orders that have a value have the same one (`combineRun_of_perm`).

`IN` and `ANY` do stop early, so an operand that fails may or may not be reached.  If none fails,
the answer only depends on which values there are (`memberTruth_known`, `anyTruth_known`), and not
on their order.
-/

set_option autoImplicit false

namespace Sift

/-! ## Combining truth values -/

/-- The truth value that a connective combines with any other to that other one. -/
def Connective.neutral : Connective → Truth
  | .and => some true
  | .or => some false

theorem Connective.combine_neutral (operator : Connective) (truth : Truth) :
    operator.combine operator.neutral truth = truth := by
  cases operator <;> rcases truth with _ | _ | _ <;> rfl

theorem Connective.combine_assoc (operator : Connective) (first second third : Truth) :
    operator.combine (operator.combine first second) third =
      operator.combine first (operator.combine second third) := by
  cases operator <;> rcases first with _ | _ | _ <;> rcases second with _ | _ | _ <;>
    rcases third with _ | _ | _ <;> rfl

theorem Connective.combine_right_comm (operator : Connective) (known first second : Truth) :
    operator.combine (operator.combine known first) second =
      operator.combine (operator.combine known second) first := by
  rw [operator.combine_assoc, operator.combine_comm first second, ← operator.combine_assoc]

/-- What is known before a run is combined with what the run gives alone. -/
theorem combineRun_eq_map (operator : Connective) (known : Truth) (outcomes : List Outcome) :
    combineRun operator known outcomes =
      (combineRun operator operator.neutral outcomes).map fun truth =>
        operator.combine known truth := by
  induction outcomes generalizing known with
  | nil =>
    simp only [combineRun, Except.map]
    rw [operator.combine_comm, operator.combine_neutral]
  | cons outcome rest ih =>
    simp only [combineRun]
    cases Outcome.truth operator.name outcome with
    | error error => rfl
    | ok truth =>
      simp only [Except.bind]
      rw [ih (operator.combine known truth), ih (operator.combine operator.neutral truth),
        operator.combine_neutral]
      cases combineRun operator operator.neutral rest with
      | error error => rfl
      | ok later => exact congrArg Except.ok (operator.combine_assoc known truth later)

/-- **Another order of the operands of a run gives the same value, if there is one.** -/
theorem combineRun_of_perm {operator : Connective} {known truth : Truth}
    {outcomes outcomes' : List Outcome} (perm : outcomes.Perm outcomes')
    (found : combineRun operator known outcomes = .ok truth) :
    combineRun operator known outcomes' = .ok truth := by
  induction perm generalizing known with
  | nil => exact found
  | cons outcome _ ih =>
    obtain ⟨first, hasTruth, found⟩ := bind_eq_ok_iff.1 found
    exact bind_eq_ok_iff.2 ⟨first, hasTruth, ih found⟩
  | swap outcome outcome' rest =>
    obtain ⟨first, hasFirst, found⟩ := bind_eq_ok_iff.1 found
    obtain ⟨second, hasSecond, found⟩ := bind_eq_ok_iff.1 found
    rw [operator.combine_right_comm] at found
    exact bind_eq_ok_iff.2 ⟨second, hasSecond, bind_eq_ok_iff.2 ⟨first, hasFirst, found⟩⟩
  | trans _ _ ih ih' => exact ih' (ih found)

/-! ## Trees of one connective -/

/-- A tree of nodes of one connective over operands, from left to right. -/
inductive Term.Groups (operator : Connective) : List Term → Term → Prop where
  | operand (term : Term) : Groups operator [term] term
  | node {first later : List Term} {left right : Term} (groupsLeft : Groups operator first left)
      (groupsRight : Groups operator later right) :
      Groups operator (first ++ later) (.connect operator left right)

/-- The outcome of such a tree from those of its operands.  A single operand is left as it is. -/
def Connective.joined (operator : Connective) : List Outcome → Outcome
  | [outcome] => outcome
  | outcomes => (combineRun operator operator.neutral outcomes).map Value.ofTruth

theorem Connective.joined_of_length {operator : Connective} {outcomes : List Outcome}
    (several : outcomes.length ≠ 1) :
    operator.joined outcomes =
      (combineRun operator operator.neutral outcomes).map Value.ofTruth := by
  unfold joined
  split
  · exact absurd rfl several
  · rfl

namespace Term.Groups

variable {operator : Connective} {operands : List Term} {term : Term}

theorem length_pos (groups : Groups operator operands term) : 0 < operands.length := by
  induction groups with
  | operand term => exact Nat.one_pos
  | node _ _ ihLeft _ =>
    rw [List.length_append]
    omega

variable [Engine] {context : Context}

/-- The truth value of a tree is that of the run of its operands. -/
theorem truth (groups : Groups operator operands term) :
    Outcome.truth operator.name (term.evaluate context) =
      combineRun operator operator.neutral
        (operands.map fun operand => operand.evaluate context) := by
  -- the left tree is the beginning of the run, and what it gives is known when the right one starts
  induction groups with
  | operand term =>
    simp only [List.map_cons, List.map_nil, combineRun, operator.combine_neutral]
    cases Outcome.truth operator.name (term.evaluate context) <;> rfl
  | @node first later left right _ _ ihLeft ihRight =>
    rw [List.map_append, combineRun_append, ← ihLeft, evaluate_connect_eq]
    cases Outcome.truth operator.name (left.evaluate context) with
    | error error => rfl
    | ok known =>
      simp only [Except.bind]
      rw [combineRun_eq_map, ← ihRight]
      cases Outcome.truth operator.name (right.evaluate context) with
      | error error => rfl
      | ok truth => exact Outcome.truth_eq_ok_iff.2 rfl

/-- **A tree of one connective evaluates by its operands alone, however it is bracketed.** -/
theorem evaluate (groups : Groups operator operands term) :
    term.evaluate context =
      operator.joined (operands.map fun operand => operand.evaluate context) := by
  have sameTruth : Outcome.truth operator.name (term.evaluate context) = _ := groups.truth
  cases groups with
  | operand term => rfl
  | @node first later left right groupsLeft groupsRight =>
    have several : ((first ++ later).map fun operand => operand.evaluate context).length ≠ 1 := by
      have := groupsLeft.length_pos
      have := groupsRight.length_pos
      rw [List.length_map, List.length_append]
      omega
    rw [Connective.joined_of_length several, ← sameTruth, evaluate_connect,
      Outcome.truth_map_ofTruth]

/-- Trees over the same operands in another order have the same value, if one of them has any. -/
theorem evaluate_of_perm {operands' : List Term} {term' : Term}
    (groups : Groups operator operands term) (groups' : Groups operator operands' term')
    (perm : operands.Perm operands') {value : Value} (found : term.evaluate context = .ok value) :
    term'.evaluate context = .ok value := by
  rw [groups.evaluate] at found
  rw [groups'.evaluate]
  have permOutcomes := perm.map fun operand => operand.evaluate context
  by_cases single : operands.length = 1
  · obtain ⟨operand, rfl⟩ := List.length_eq_one_iff.1 single
    rw [List.perm_singleton.1 perm.symm]
    exact found
  · have single' : operands'.length ≠ 1 := fun same => single (perm.length_eq.trans same)
    rw [Connective.joined_of_length (by rwa [List.length_map])] at found ⊢
    obtain ⟨truth, combined, rfl⟩ := map_eq_ok_iff.1 found
    exact map_eq_ok_iff.2 ⟨truth, combineRun_of_perm permOutcomes combined, rfl⟩

end Term.Groups

/-! ## Items and alternatives -/

/-- If all items have a value, the search for one among them tells whether it is there, and else
whether an item was unknown. -/
theorem memberTruth_known (value : Value) (items : List Value) (seen : Truth) :
    memberTruth value seen (items.map .ok) =
      .ok (if items.any fun item => !item.isNull && Comparison.eq.holdsOf value item then some true
        else if items.any Value.isNull then none else seen) := by
  induction items generalizing seen with
  | nil => rfl
  | cons item rest ih =>
    simp only [List.map_cons, memberTruth, Except.bind, ih, List.any_cons]
    -- an unknown item is passed over, and a later one may still be found
    by_cases null : item.isNull = true
    · simp [null]
    · by_cases same : Comparison.eq.holdsOf value item = true
      · simp [null, same]
      · simp [null, same]

/-- If all operands have a truth value, `ANY` is true if one of them is, and else false if one of
them is. -/
theorem anyTruth_known (truths : List Truth) (seen : Truth) :
    anyTruth seen (truths.map fun truth => .ok (Value.ofTruth truth)) =
      .ok (if some true ∈ truths then some true
        else if some false ∈ truths then some false else seen) := by
  induction truths generalizing seen with
  | nil => simp [anyTruth]
  | cons truth rest ih =>
    have found : Outcome.truth "ANY" (.ok (Value.ofTruth truth)) = .ok truth :=
      Outcome.truth_eq_ok_iff.2 rfl
    simp only [List.map_cons, anyTruth, found, ih]
    rcases truth with _ | _ | _ <;> simp

section Terms

variable [Engine] {context : Context}

/-- Items in another order are found or missed alike. -/
theorem Term.evaluate_inList_of_perm {value : Term} {items items' : List Term}
    (perm : items.Perm items')
    (known : ∀ operand ∈ value :: items, ∃ result, operand.evaluate context = .ok result) :
    ∃ result, (Term.inList value items).evaluate context = .ok result ∧
      (Term.inList value items').evaluate context = .ok result := by
  choose! result evaluated using known
  obtain ⟨evaluatedValue, evaluatedItems⟩ := List.forall_mem_cons.1 evaluated
  have outcomes {others : List Term} (perm : items.Perm others) :
      others.map (fun item => item.evaluate context) = (others.map result).map .ok := by
    rw [List.map_map]
    exact List.map_congr_left fun item member => evaluatedItems item (perm.mem_iff.2 member)
  rw [Term.evaluate, Term.evaluate, evaluatedValue, outcomes (.refl items), outcomes perm]
  simp only [inOutcome, Except.bind]
  by_cases null : (result value).isNull = true
  · rw [if_pos null, if_pos null]
    exact ⟨_, rfl, rfl⟩
  · rw [if_neg null, if_neg null, memberTruth_known, memberTruth_known,
      (perm.map result).any_eq, (perm.map result).any_eq]
    exact ⟨_, rfl, rfl⟩

/-- Alternatives in another order give the same. -/
theorem Term.evaluate_any_of_perm {operands operands' : List Term}
    (perm : operands.Perm operands')
    (known : ∀ operand ∈ operands, ∃ truth, operand.evaluate context = .ok (Value.ofTruth truth)) :
    ∃ result, (Term.any operands).evaluate context = .ok result ∧
      (Term.any operands').evaluate context = .ok result := by
  choose! truth evaluated using known
  have outcomes {others : List Term} (perm : operands.Perm others) :
      others.map (fun operand => operand.evaluate context) =
        (others.map truth).map fun truth => .ok (Value.ofTruth truth) := by
    rw [List.map_map]
    exact List.map_congr_left fun operand member => evaluated operand (perm.mem_iff.2 member)
  rw [Term.evaluate, Term.evaluate, outcomes (.refl operands), outcomes perm, anyTruth_known,
    anyTruth_known]
  simp only [(perm.map truth).mem_iff]
  exact ⟨_, rfl, rfl⟩

/-- **Neither brackets nor the order of operands change a value.**  Two trees of one connective over
the same operands, from left to right, evaluate to the same value or fail with the same error,
however they are bracketed.  Over operands in any other order they have the same value if one of
them has any, so they fail both or none.  The order of the items of `IN` does not matter if all
operands have a value, and neither does that of the operands of `ANY` if they all are booleans or
null; they have a value then, which is the same for every order. -/
theorem Term.evaluate_rearranged (context : Context) :
    (∀ (operator : Connective) (operands : List Term) (term term' : Term),
      Groups operator operands term → Groups operator operands term' →
      term.evaluate context = term'.evaluate context) ∧
    (∀ (operator : Connective) (operands operands' : List Term) (term term' : Term),
      operands.Perm operands' → Groups operator operands term → Groups operator operands' term' →
      (∀ value, term.evaluate context = .ok value ↔ term'.evaluate context = .ok value) ∧
      ((∃ error, term.evaluate context = .error error) ↔
        ∃ error, term'.evaluate context = .error error)) ∧
    (∀ (value : Term) (items items' : List Term), items.Perm items' →
      (∀ operand ∈ value :: items, ∃ result, operand.evaluate context = .ok result) →
      ∃ result, (Term.inList value items).evaluate context = .ok result ∧
        (Term.inList value items').evaluate context = .ok result) ∧
    ∀ operands operands' : List Term, operands.Perm operands' →
      (∀ operand ∈ operands, operand.evaluate context = .ok .null ∨
        ∃ b, operand.evaluate context = .ok (.boolean b)) →
      ∃ result, (Term.any operands).evaluate context = .ok result ∧
        (Term.any operands').evaluate context = .ok result := by
  refine ⟨fun operator operands term term' groups groups' => ?_,
    fun operator operands operands' term term' perm groups groups' => ?_,
    fun value items items' perm known => evaluate_inList_of_perm perm known,
    fun operands operands' perm known => evaluate_any_of_perm perm fun operand member => ?_⟩
  · rw [groups.evaluate, groups'.evaluate]
  · have same : ∀ value, term.evaluate context = .ok value ↔ term'.evaluate context = .ok value :=
      fun value => ⟨fun found => groups.evaluate_of_perm groups' perm found,
        fun found => groups'.evaluate_of_perm groups perm.symm found⟩
    refine ⟨same, ?_⟩
    simp only [exists_error_iff, ne_eq, same]
  · rcases known operand member with unknown | ⟨b, found⟩
    · exact ⟨none, unknown⟩
    · exact ⟨some b, found⟩

end Terms

/-- Of an unknown, a false and a true operand every conjunction is false, the items are found in
either order, and so are the alternatives. -/
theorem Term.evaluate_rearranged_three :
    let context : Context := fun name =>
      .ok (if name = "a" then .null else .boolean (name ≠ "b"))
    let a := Term.property "a"
    let b := Term.property "b"
    let c := Term.property "c"
    @Term.evaluate Engine.direct context (.connect .and (.connect .and a b) c) =
        @Term.evaluate Engine.direct context (.connect .and a (.connect .and b c)) ∧
      @Term.evaluate Engine.direct context (.connect .and c (.connect .and b a)) =
        .ok (.boolean false) ∧
      (∃ result, @Term.evaluate Engine.direct context (.inList c [a, c]) = .ok result ∧
        @Term.evaluate Engine.direct context (.inList c [c, a]) = .ok result) ∧
      ∃ result, @Term.evaluate Engine.direct context (.any [a, b]) = .ok result ∧
        @Term.evaluate Engine.direct context (.any [b, a]) = .ok result := by
  intro context a b c
  let : Engine := Engine.direct
  obtain ⟨regrouped, reordered, items, alternatives⟩ := evaluate_rearranged context
  have isA : a.evaluate context = .ok .null := by rw [Term.evaluate]; rfl
  have isB : b.evaluate context = .ok (.boolean false) := by rw [Term.evaluate]; rfl
  have isC : c.evaluate context = .ok (.boolean true) := by rw [Term.evaluate]; rfl
  have leftwards : Groups .and [a, b, c] (.connect .and (.connect .and a b) c) :=
    .node (.node (.operand a) (.operand b)) (.operand c)
  have rightwards : Groups .and [a, b, c] (.connect .and a (.connect .and b c)) :=
    .node (.operand a) (.node (.operand b) (.operand c))
  have backwards : Groups .and [c, b, a] (.connect .and c (.connect .and b a)) :=
    .node (.operand c) (.node (.operand b) (.operand a))
  have evaluated : (Term.connect .and (.connect .and a b) c).evaluate context =
      .ok (.boolean false) := by
    rw [leftwards.evaluate, List.map_cons, List.map_cons, List.map_cons, isA, isB, isC]
    rfl
  refine ⟨regrouped .and _ _ _ leftwards rightwards, ?_, items c _ _ (.swap c a []) ?_,
    alternatives _ _ (.swap b a []) ?_⟩
  · have turned : [a, b, c].Perm [c, b, a] := (List.reverse_perm [c, b, a])
    exact ((reordered .and _ _ _ _ turned leftwards backwards).1 _).1 evaluated
  · simp [isA, isC]
  · simp [isA, isB]

end Sift
