import Sift.Pattern.Matching
import Sift.Proofs.Expression.Runs
import Sift.Proofs.Query.Binding

/-!
# What an evaluation depends on

A term is evaluated by looking up the properties it mentions and nothing else, so two contexts that
agree on these cannot be told apart (`Term.evaluate_congr`).  For a finished expression they are
among its identifiers.  An expression without identifiers is therefore a constant, and a bound query
sees of a candidate only what its accessors hand out: it may as well be evaluated in a table of
those values.
-/

set_option autoImplicit false

namespace Sift

/-- **Contexts that agree on the properties of a term give it the same value or the same
failure.** -/
theorem Term.evaluate_congr [Engine] {term : Term} {before after : Context}
    (agree : ∀ name, term.Mentions name → before name = after name) :
    term.evaluate before = term.evaluate after := by
  simp only [evaluate_eq_plainValue]
  induction term using operandInduction with
  | step term ih =>
    have inside : ∀ operand ∈ term.operands,
        operand.plainValue before = operand.plainValue after :=
      fun operand member => ih operand member fun name mentioned =>
        agree name (.inside member mentioned)
    cases term with
    | property name =>
      simp only [plainValue]
      exact agree name .here
    | literal content => simp only [plainValue]
    | inList value items =>
      obtain ⟨same, others⟩ := List.forall_mem_cons.1 inside
      simp only [plainValue, same, List.map_congr_left others]
    | any operands =>
      have others : ∀ operand ∈ operands, _ := inside
      simp only [plainValue, List.map_congr_left others]
    | _ =>
      simp only [operands, List.forall_mem_cons, List.not_mem_nil, false_implies, implies_true,
        and_true] at inside
      simp only [plainValue, inside]

/-- The properties in a table have the values there, and no others are bound. -/
def Context.ofValues (values : String → Option Value) : Context :=
  fun name =>
    match values name with
    | some value => .ok value
    | none => .error (.unbound name)

/-- What a query makes of the value of its term. -/
def BoundQuery.verdict : Outcome → Except QueryError Truth
  | .error error => .error (.evaluation error)
  | .ok value =>
    match value.boolean?, value.kind with
    | some b, _ => .ok (some b)
    | none, none => .ok none
    | none, some kind => .error (.notPredicate kind)

theorem BoundQuery.evaluate_eq_verdict [Engine] {ι : Type} {El : ι → Type} [DecidableEq ι]
    {type : ι} (query : BoundQuery El type) (candidate : Object El) :
    query.evaluate candidate =
      verdict (query.expression.term.evaluate (query.accessors.context candidate)) :=
  rfl

/-- A table of what the accessors give for a candidate agrees with them on what is bound. -/
theorem Accessors.context_eq_ofValues {ι : Type} {El : ι → Type} [DecidableEq ι]
    {accessors : Accessors El} {candidate : Object El} {values : String → Option Value}
    (given : ∀ name getter, (name, getter) ∈ accessors →
      ∃ value, getter.get candidate = .ok value ∧ values name = some value)
    {name : String} (bound : name ∈ accessors.map Prod.fst) :
    accessors.context candidate name = Context.ofValues values name := by
  obtain ⟨getter, found⟩ := exists_lookup_of_mem bound
  obtain ⟨value, got, listed⟩ := given name getter (mem_of_lookup found)
  simp only [context, found, got, Context.ofValues, listed]
  rfl

/-- **A finished expression depends on its identifiers only.**  Contexts that give the same results
for them, values or failures, give the same result for the expression.  So one without identifiers
has the same result in every context, and a query that the expression is bound to answers for a
candidate as the expression does in any table that lists for each bound name the value that the
accessor has for the candidate. -/
theorem Expression.evaluate_of_agreement [Engine] {requests : List Builder.Request} {root : Nat}
    {expression : Expression} (built : (Builder.after requests).build root = .ok expression) :
    (∀ before after : Context, (∀ name ∈ expression.identifiers, before name = after name) →
      expression.term.evaluate before = expression.term.evaluate after) ∧
    (expression.isConstant = true → ∀ before after : Context,
      expression.term.evaluate before = expression.term.evaluate after) ∧
    ∀ {ι : Type} {El : ι → Type} [DecidableEq ι] {type : ι} (resolver : Resolver El)
      (descriptor : Descriptor El type) (query : BoundQuery El type),
      (BoundQuery.bind resolver descriptor expression).2 = .ok query →
      ∀ (candidate : Object El) (values : String → Option Value),
        (∀ name getter, (name, getter) ∈ query.accessors →
          ∃ value, getter.get candidate = .ok value ∧ values name = some value) →
        query.evaluate candidate =
          BoundQuery.verdict (expression.term.evaluate (Context.ofValues values)) := by
  have depends (before after : Context)
      (agree : ∀ name ∈ expression.identifiers, before name = after name) :
      expression.term.evaluate before = expression.term.evaluate after :=
    Term.evaluate_congr fun name mentioned =>
      agree name (mem_identifiers_of_mentions built mentioned)
  refine ⟨depends, fun constant before after => ?_, ?_⟩
  · have without : expression.identifiers = [] := List.isEmpty_iff.1 constant
    apply depends
    rw [without]
    exact fun _ member => nomatch member
  · intro ι El _ type resolver descriptor query bound candidate values given
    obtain ⟨same, keys, _⟩ := BoundQuery.checked_of_bind bound
    rw [BoundQuery.evaluate_eq_verdict, same]
    refine congrArg BoundQuery.verdict (depends _ _ fun name member => ?_)
    exact Accessors.context_eq_ofValues given (keys.symm ▸ member)

/-- Whether an employee of age 21 is of age is decided by a table that lists the age alone. -/
theorem Expression.evaluate_of_agreement_adult :
    ∃ expression query,
      (Builder.after [(.property "age", []), (.literal (.number (.integer 18)), []),
        (.compare .ge, [0, 1])]).build 2 = .ok expression ∧
      (BoundQuery.bind (.ofStrategies [Strategy.fields]) Employee.descriptor expression).2 =
        .ok query ∧
      @BoundQuery.evaluate _ _ _ _ Engine.direct query
        ⟨StaffType.employee, ({ person := { age := 21 } } : Employee)⟩ = .ok (some true) := by
  let requests : List Builder.Request :=
    [(.property "age", []), (.literal (.number (.integer 18)), []), (.compare .ge, [0, 1])]
  obtain ⟨expression, built, same, names⟩ : ∃ expression, (Builder.after requests).build 2 =
      .ok expression ∧ expression.term =
        .compare .ge (.property "age") (.literal (.number (.integer 18))) ∧
      expression.identifiers = ["age"] := ⟨_, rfl, rfl, rfl⟩
  obtain ⟨query, bound, given⟩ : ∃ query : BoundQuery Staff .employee,
      (BoundQuery.bind (.ofStrategies [Strategy.fields]) Employee.descriptor expression).2 =
        .ok query ∧ ∀ entry ∈ query.accessors, entry.1 = "age" ∧
          entry.2.get ⟨StaffType.employee, ({ person := { age := 21 } } : Employee)⟩ =
            .ok (.integer 21) := by
    rw [BoundQuery.bind_eq, names, same]
    simp only [Term.checkPredicate, Term.check]
    refine ⟨_, rfl, ?_⟩
    refine List.forall_mem_singleton.2 ⟨rfl, rfl⟩
  refine ⟨expression, query, built, bound, ?_⟩
  rw [(@evaluate_of_agreement Engine.direct requests 2 expression built).2.2 _ _ query bound _
    (fun name => if name = "age" then some (.integer 21) else none)
    (fun name getter member => ⟨.integer 21, (given _ member).2, if_pos (given _ member).1⟩)]
  rw [same, @Term.evaluate_eq_plainValue Engine.direct]
  simp only [Term.plainValue]
  rfl

end Sift
