import Sift.Proofs.Expression.Checking
import Sift.Proofs.Expression.Runs

/-!
# Knowing more

Null stands for what is not known yet.  A context that knows more has the values of another one
wherever that one has values, and may have anything where that one has null.  A result reached in
the poorer context is then never contradicted in the richer one: a value that is not null stays the
same, unless evaluation fails for what has become known (`Term.evaluate_refines`).

This is so for the connectives, `IN`, `BETWEEN`, `LIKE`, comparisons and arithmetic.  It is not so
for `ANY`, which is false as soon as the only operand known is, nor for `IS NULL`, which asks what
is unknown, so terms that contain one of them are left out (`Term.Steady`).

The order is flat: what is unknown informs anything, all else only itself (`Informs`).  Operators
are compared by what they do to operands so related (`Refines`), and the rule for one computation
after another (`Refines.bind`) covers every operand that is skipped where an earlier one is null.
-/

set_option autoImplicit false

namespace Sift

/-! ## The order of information -/

/-- Something unknown may become anything, and something known stays the same. -/
def Informs {α : Type} (unknown before after : α) : Prop :=
  before = unknown ∨ after = before

theorem Informs.refl {α : Type} (unknown value : α) : Informs unknown value value :=
  Or.inr rfl

theorem Informs.trans {α : Type} {unknown first second third : α}
    (informs : Informs unknown first second) (informs' : Informs unknown second third) :
    Informs unknown first third := by
  rcases informs with rfl | rfl
  · exact Or.inl rfl
  · exact informs'

/-- A function that leaves the unknown open does not contradict itself. -/
theorem Informs.map {α β : Type} {unknown before after : α} {unknown' : β} {f : α → β}
    (informs : Informs unknown before after) (opens : f unknown = unknown') :
    Informs unknown' (f before) (f after) := by
  rcases informs with rfl | rfl
  · exact Or.inl opens
  · exact .refl unknown' _

theorem Connective.combine_comm (operator : Connective) (left right : Truth) :
    operator.combine left right = operator.combine right left := by
  cases operator <;> rcases left with _ | _ | _ <;> rcases right with _ | _ | _ <;> rfl

/-- One known side settles the answer or leaves it open. -/
theorem Connective.combine_none_informs (operator : Connective) (left right : Truth) :
    Informs none (operator.combine none right) (operator.combine left right) := by
  unfold Informs
  cases operator <;> rcases left with _ | _ | _ <;> rcases right with _ | _ | _ <;> decide

/-- **The connectives answer the same when they are told more.** -/
theorem Connective.combine_informs (operator : Connective) {left left' right right' : Truth}
    (informsLeft : Informs none left left') (informsRight : Informs none right right') :
    Informs none (operator.combine left right) (operator.combine left' right') := by
  have changesLeft : Informs none (operator.combine left right) (operator.combine left' right) := by
    rcases informsLeft with rfl | rfl
    · exact operator.combine_none_informs left' right
    · exact .refl none _
  have changesRight :
      Informs none (operator.combine left' right) (operator.combine left' right') := by
    rcases informsRight with rfl | rfl
    · rw [operator.combine_comm left' none, operator.combine_comm left' right']
      exact operator.combine_none_informs right' left'
    · exact .refl none _
  exact changesLeft.trans changesRight

/-! ## Computations -/

/-- Where both computations have a result, the two results are related. -/
def Refines {α β : Type} (related : α → β → Prop) (before : Except EvaluationError α)
    (after : Except EvaluationError β) : Prop :=
  ∀ first second, before = .ok first → after = .ok second → related first second

namespace Refines

variable {α α' β β' : Type} {related : α → α' → Prop} {related' : β → β' → Prop}
  {before : Except EvaluationError α} {after : Except EvaluationError α'}

theorem ok {first : α} {second : α'} (holds : related first second) :
    Refines related (.ok first) (.ok second) := by
  rintro _ _ ⟨⟩ ⟨⟩
  exact holds

/-- **One computation after another.** -/
theorem bind {next : α → Except EvaluationError β} {next' : α' → Except EvaluationError β'}
    (refines : Refines related before after)
    (continues : ∀ first second, related first second →
      Refines related' (next first) (next' second)) :
    Refines related' (before.bind next) (after.bind next') := by
  intro result result' found found'
  obtain ⟨first, hasFirst, found⟩ := bind_eq_ok_iff.1 found
  obtain ⟨second, hasSecond, found'⟩ := bind_eq_ok_iff.1 found'
  exact continues first second (refines first second hasFirst hasSecond) result result' found found'

theorem map {f : α → β} {f' : α' → β'} (refines : Refines related before after)
    (continues : ∀ first second, related first second → related' (f first) (f' second)) :
    Refines related' (before.map f) (after.map f') := by
  intro result result' found found'
  obtain ⟨first, hasFirst, rfl⟩ := map_eq_ok_iff.1 found
  obtain ⟨second, hasSecond, rfl⟩ := map_eq_ok_iff.1 found'
  exact continues first second (refines first second hasFirst hasSecond)

/-- A computation refines itself. -/
theorem refl (unknown : α) (result : Except EvaluationError α) :
    Refines (Informs unknown) result result := by
  intro first second found found'
  cases found.symm.trans found'
  exact .refl unknown first

end Refines

/-- A computation that leaves the unknown open does not contradict itself. -/
theorem Informs.refines {α β : Type} {unknown first second : α} {unknown' : β}
    {next : α → Except EvaluationError β} (informs : Informs unknown first second)
    (opens : next unknown = .ok unknown') : Refines (Informs unknown') (next first) (next second) := by
  rcases informs with rfl | rfl
  · intro result result' found _
    rw [opens] at found
    exact Or.inl (Except.ok.inj found).symm
  · exact .refl unknown' _

/-- An operand that is skipped over when it is null. -/
theorem Refines.unlessNull {α : Type} {unknown : α} {before after : Outcome}
    {next next' : Value → Except EvaluationError α} (refines : Refines (Informs .null) before after)
    (continues : ∀ value, Refines (Informs unknown) (next value) (next' value)) :
    Refines (Informs unknown)
      (before.bind fun value => if value.isNull then .ok unknown else next value)
      (after.bind fun value => if value.isNull then .ok unknown else next' value) := by
  refine refines.bind fun first second informs => ?_
  rcases informs with rfl | rfl
  · intro result result' found _
    exact Or.inl (Except.ok.inj found).symm
  · cases second.isNull with
    | true => exact .refl unknown _
    | false => exact continues second

/-! ## Operators on outcomes -/

section Operators

variable {left left' right right' : Outcome} (refinesLeft : Refines (Informs .null) left left')
  (refinesRight : Refines (Informs .null) right right')

include refinesLeft in
theorem truth_refines (operator : String) :
    Refines (Informs none) (Outcome.truth operator left) (Outcome.truth operator left') := by
  refine refinesLeft.bind fun first second informs => ?_
  apply informs.refines
  rfl

include refinesLeft refinesRight in
theorem connectOutcome_refines (operator : Connective) :
    Refines (Informs .null) (connectOutcome operator left right)
      (connectOutcome operator left' right') := by
  refine (truth_refines refinesLeft operator.name).bind fun _ _ informsLeft => ?_
  refine (truth_refines refinesRight operator.name).map fun _ _ informsRight => ?_
  apply (operator.combine_informs informsLeft informsRight).map
  rfl

include refinesLeft refinesRight in
theorem bothKnown_refines :
    Refines (Informs none) (bothKnown left right) (bothKnown left' right') := by
  refine refinesLeft.unlessNull fun leftValue => ?_
  refine refinesRight.bind fun first second informs => ?_
  apply Refines.ok
  apply informs.map
  rfl

include refinesLeft refinesRight in
theorem compareOutcome_refines (operator : Comparison) :
    Refines (Informs .null) (compareOutcome operator left right)
      (compareOutcome operator left' right') := by
  refine (bothKnown_refines refinesLeft refinesRight).map fun first second informs => ?_
  apply informs.map
  rfl

include refinesLeft refinesRight in
theorem arithmeticOutcome_refines (operator : Arithmetic) :
    Refines (Informs .null) (arithmeticOutcome operator left right)
      (arithmeticOutcome operator left' right') := by
  refine (bothKnown_refines refinesLeft refinesRight).bind fun first second informs => ?_
  apply informs.refines
  rfl

include refinesLeft refinesRight in
theorem likeOutcome_refines [Engine] :
    Refines (Informs .null) (likeOutcome left right) (likeOutcome left' right') := by
  refine refinesLeft.bind fun subject subject' informs => ?_
  refine refinesRight.bind fun pattern pattern' informsPattern => ?_
  rcases informs with rfl | rfl
  · rintro _ _ ⟨⟩ _
    exact Or.inl rfl
  · apply informsPattern.refines
    simp only [Value.isNull, Bool.or_true, if_true]

include refinesLeft in
theorem negated_refines :
    Refines (Informs .null) (left.bind negated) (left'.bind negated) := by
  refine refinesLeft.bind fun value value' informs => ?_
  apply informs.refines
  rfl

end Operators

theorem betweenOutcome_refines {value value' low low' high high' : Outcome}
    (refines : Refines (Informs .null) value value')
    (refinesLow : Refines (Informs .null) low low')
    (refinesHigh : Refines (Informs .null) high high') :
    Refines (Informs .null) (betweenOutcome value low high) (betweenOutcome value' low' high') := by
  refine refines.unlessNull fun value => ?_
  refine refinesLow.unlessNull fun low => ?_
  refine refinesHigh.unlessNull fun high => ?_
  exact .refl _ _

/-- Once an item was unknown, only finding the value settles the search. -/
theorem memberTruth_none {value : Value} {items : List Outcome} {truth : Truth}
    (found : memberTruth value none items = .ok truth) : Informs none truth (some true) := by
  induction items with
  | nil =>
    cases found
    exact Or.inl rfl
  | cons item rest ih =>
    obtain ⟨item, _, found⟩ := bind_eq_ok_iff.1 found
    split_ifs at found with null same
    · exact ih found
    · cases found
      exact Or.inr rfl
    · exact ih found

theorem memberTruth_refines {value : Value} {items items' : List Outcome} {seen seen' : Truth}
    (informs : Informs none seen seen')
    (refines : List.Forall₂ (Refines (Informs .null)) items items') :
    Refines (Informs none) (memberTruth value seen items) (memberTruth value seen' items') := by
  induction refines generalizing seen seen' with
  | nil => exact .ok informs
  | cons first _ ih =>
    refine first.bind fun item item' informsItem => ?_
    rcases informsItem with rfl | rfl
    · -- the item was skipped, so the search can only have ended at a later one
      intro truth truth' found found'
      split_ifs at found' with null same
      · exact ih (.refl none none) truth truth' found found'
      · cases found'
        exact memberTruth_none found
      · exact ih (Or.inl rfl) truth truth' found found'
    · split_ifs with null same
      · exact ih (.refl none none)
      · exact .refl none _
      · exact ih informs

theorem inOutcome_refines {value value' : Outcome} {items items' : List Outcome}
    (refines : Refines (Informs .null) value value')
    (refinesItems : List.Forall₂ (Refines (Informs .null)) items items') :
    Refines (Informs .null) (inOutcome value items) (inOutcome value' items') := by
  refine refines.unlessNull fun value => ?_
  refine (memberTruth_refines (.refl none (some false)) refinesItems).map fun _ _ informs => ?_
  apply informs.map
  rfl

/-! ## Terms -/

/-- Neither `ANY` nor `IS NULL` occurs in a term. -/
inductive Term.Steady : Term → Prop where
  | node {term : Term} (notAny : term.kind ≠ .any) (notIsNull : term.kind ≠ .isNull)
    (operands : ∀ operand ∈ term.operands, Steady operand) : Steady term

/-- **A context that knows more never contradicts.**  If every property of a steady term is refined,
so is the value of the term. -/
theorem Term.evaluate_refines [Engine] {term : Term} (steady : term.Steady) {before after : Context}
    (refines : ∀ name, term.Mentions name → Refines (Informs .null) (before name) (after name)) :
    Refines (Informs .null) (term.evaluate before) (term.evaluate after) := by
  simp only [evaluate_eq_plainValue]
  induction steady with
  | @node term notAny notIsNull _ ih =>
    have inside : ∀ operand ∈ term.operands, Refines (Informs .null)
        (operand.plainValue before) (operand.plainValue after) :=
      fun operand member => ih operand member fun name mentioned =>
        refines name (.inside member mentioned)
    cases term with
    | property name =>
      simp only [plainValue]
      exact refines name .here
    | literal content =>
      simp only [plainValue]
      exact .refl _ _
    | connect operator left right =>
      simp only [plainValue]
      exact connectOutcome_refines (inside left (by simp [operands]))
        (inside right (by simp [operands])) operator
    | not operand =>
      simp only [plainValue]
      have refined := truth_refines (inside operand (by simp [operands])) "NOT"
      refine refined.map fun _ _ informs => ?_
      apply informs.map
      rfl
    | isNull operand => exact absurd rfl notIsNull
    | between value low high =>
      simp only [plainValue]
      exact betweenOutcome_refines (inside value (by simp [operands]))
        (inside low (by simp [operands])) (inside high (by simp [operands]))
    | inList value items =>
      simp only [plainValue]
      apply inOutcome_refines (inside value (by simp [operands]))
      rw [List.forall₂_map_left_iff, List.forall₂_map_right_iff]
      refine List.forall₂_same.2 fun item member => ?_
      exact inside item (List.mem_cons_of_mem value member)
    | like subject pattern =>
      simp only [plainValue]
      exact likeOutcome_refines (inside subject (by simp [operands]))
        (inside pattern (by simp [operands]))
    | compare operator left right =>
      simp only [plainValue]
      exact compareOutcome_refines (inside left (by simp [operands]))
        (inside right (by simp [operands])) operator
    | any operands => exact absurd rfl notAny
    | arithmetic operator left right =>
      simp only [plainValue]
      exact arithmeticOutcome_refines (inside left (by simp [operands]))
        (inside right (by simp [operands])) operator
    | negate operand =>
      simp only [plainValue]
      exact negated_refines (inside operand (by simp [operands]))

/-! ## Finished expressions -/

/-- A node carries a steady term if no node is an `ANY` or an `IS NULL`. -/
theorem Builder.Forest.steady {builder : Builder} (forest : builder.Forest)
    (without : ∀ (id : Nat) (node : Node), builder.nodes[id]? = some node →
      node.kind ≠ .any ∧ node.kind ≠ .isNull)
    {id : Nat} {term : Term} (carries : builder.Carries id term) : term.Steady := by
  have only : term.Only fun kind => kind ≠ .any ∧ kind ≠ .isNull := forest.only without carries
  clear carries
  induction only with
  | node root _ ih => exact .node root.1 root.2 ih

/-- **What is decided with something unknown stays decided.**  In an expression without `ANY` and
`IS NULL`, let some properties that one context has as null be anything in another one, and all
others be the same.  A value that is not null under the first is the value under the second as well,
unless evaluation fails there.  So a candidate that is selected, or definitely rejected, does not
get the opposite answer once more is known about it. -/
theorem Expression.evaluate_of_informed [Engine] {requests : List Builder.Request} {root : Nat}
    {expression : Expression} (built : (Builder.after requests).build root = .ok expression)
    (without : ∀ (id : Nat) (node : Node), expression.nodes[id]? = some node →
      node.kind ≠ .any ∧ node.kind ≠ .isNull)
    {before after : Context}
    (informed : ∀ name ∈ expression.identifiers,
      before name = .ok .null ∨ after name = before name) :
    (∀ value, value ≠ .null → expression.term.evaluate before = .ok value →
      expression.term.evaluate after = .ok value ∨
        ∃ error, expression.term.evaluate after = .error error) ∧
    ∀ b, expression.term.evaluate before = .ok (.boolean b) →
      expression.term.evaluate after ≠ .ok (.boolean !b) := by
  obtain ⟨_, sameNodes, _⟩ := Builder.build_eq_ok_iff.1 built
  have steady : expression.term.Steady :=
    (Builder.forest_after requests).steady (sameNodes ▸ without) (Builder.termAt_root built)
  have refines : Refines (Informs .null) (expression.term.evaluate before)
      (expression.term.evaluate after) := by
    refine Term.evaluate_refines steady fun name mentioned => ?_
    rcases informed name (mem_identifiers_of_mentions built mentioned) with unknown | same
    · rw [unknown]
      rintro _ _ ⟨⟩ _
      exact Or.inl rfl
    · rw [same]
      exact .refl _ _
  constructor
  · intro value known evaluated
    cases result : expression.term.evaluate after with
    | error error => exact Or.inr ⟨error, rfl⟩
    | ok value' =>
      rcases refines value value' evaluated result with rfl | rfl
      · exact absurd rfl known
      · exact Or.inl rfl
  · intro b evaluated opposite
    have informs := refines _ _ evaluated opposite
    cases b <;> simp [Informs] at informs

/-- A conjunction with a false side stays false when the other side, unknown before, is true. -/
theorem Expression.evaluate_of_informed_conjunction :
    ∃ expression,
      (Builder.after [(.property "a", []), (.property "b", []), (.connect .and, [0, 1])]).build 2 =
        .ok expression ∧
      @Term.evaluate Engine.direct
        (fun name => .ok (if name = "a" then .boolean false else .null)) expression.term =
          .ok (.boolean false) ∧
      @Term.evaluate Engine.direct
        (fun name => .ok (.boolean (name ≠ "a"))) expression.term ≠ .ok (.boolean true) := by
  let requests : List Builder.Request :=
    [(.property "a", []), (.property "b", []), (.connect .and, [0, 1])]
  obtain ⟨expression, built, kinds, same⟩ : ∃ expression, (Builder.after requests).build 2 =
      .ok expression ∧
      expression.nodes.toList.map Node.kind = [.property "a", .property "b", .connect .and] ∧
      expression.term = .connect .and (.property "a") (.property "b") := ⟨_, rfl, rfl, rfl⟩
  have without : ∀ (id : Nat) (node : Node), expression.nodes[id]? = some node →
      node.kind ≠ .any ∧ node.kind ≠ .isNull :=
    @Node.forall_of_kinds _ _ (fun kind => kind ≠ .any ∧ kind ≠ .isNull) kinds (by simp)
  have evaluated : @Term.evaluate Engine.direct
      (fun name => .ok (if name = "a" then .boolean false else .null)) expression.term =
        .ok (.boolean false) := by
    rw [same, @Term.evaluate_eq_plainValue Engine.direct]
    simp only [Term.plainValue]
    rfl
  refine ⟨expression, built, evaluated, ?_⟩
  refine (@evaluate_of_informed Engine.direct requests 2 expression built without _ _ ?_).2
    false evaluated
  intro name _
  by_cases isA : name = "a"
  · exact Or.inr (by simp [isA])
  · exact Or.inl (by simp [isA])

end Sift
