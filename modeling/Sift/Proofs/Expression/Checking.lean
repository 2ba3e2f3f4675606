import Sift.Pattern.Matching
import Sift.Proofs.Expression.Paths
import Sift.Proofs.Expression.Soundness

/-!
# Checked expressions

Whatever a builder was asked for, the properties in the term of a finished expression are among its
identifiers (`Builder.Forest.exists_property`).  So a schema and a context that agree on the
identifiers agree on all that the term reads, and what is checked once holds for every such context.
-/

set_option autoImplicit false

namespace Sift

/-- A property in the term of a node has a node of its own. -/
theorem Builder.Forest.exists_property {builder : Builder} (forest : builder.Forest)
    {name : String} {term : Term} (mentioned : term.Mentions name) {id : Nat}
    (found : builder.termAt id = some term) :
    ∃ (at' : Nat) (node : Node), builder.nodes[at']? = some node ∧ node.kind = .property name := by
  induction mentioned generalizing id with
  | here =>
    obtain ⟨node, foundNode, sameKind, _⟩ := forest.node_of_carries found
    exact ⟨id, node, foundNode, sameKind⟩
  | inside member _ ih =>
    obtain ⟨node, _, _, children⟩ := forest.node_of_carries found
    obtain ⟨position, inside, rfl⟩ := List.getElem_of_mem member
    exact ih (children.get (children.length_eq ▸ inside) inside)

/-- The properties in the term of a finished expression are among its identifiers. -/
theorem Expression.mem_identifiers_of_mentions {requests : List Builder.Request} {root : Nat}
    {expression : Expression} (built : (Builder.after requests).build root = .ok expression)
    {name : String} (mentioned : expression.term.Mentions name) :
    name ∈ expression.identifiers := by
  obtain ⟨id, node, found, named⟩ :=
    (Builder.forest_after requests).exists_property mentioned (Builder.termAt_root built)
  obtain ⟨_, sameNodes, _⟩ := Builder.build_eq_ok_iff.1 built
  exact mem_identifiers.2 ⟨id, node, sameNodes ▸ found, named⟩

/-- A predicate that is checked and has a known kind is a truth value. -/
theorem Term.checkPredicate_eq_ok_iff {schema : Schema} {term : Term} :
    term.checkPredicate schema = .ok () ↔
      term.check schema = .ok none ∨ term.check schema = .ok (some .boolean) := by
  unfold checkPredicate
  rcases term.check schema with error | _ | _ | _ | _ | _ | _ <;> simp [Except.bind]

/-- The failures that no check of kinds can rule out. -/
def Unforeseen [Engine] (error : EvaluationError) : Prop :=
  error = .divisionByZero ∨ ∃ text message,
    error = .invalidPattern text message ∧ Pattern.compile ⟨text, none⟩ = .error message

theorem unavoidable_unforeseen [Engine] : Unavoidable Unforeseen where
  divisionByZero := Or.inl rfl
  refused text message refused := Or.inr ⟨text, message, rfl, refused⟩

/-- **An expression that passes the check of kinds evaluates to what was checked.**  If each of its
identifiers has a kind and a value that is null or of that kind, then a kind that is checked is
known, and evaluation gives null or a value of that kind, or fails by a division by zero or by a
pattern that the engine refuses.  A predicate that passes is null or a truth value. -/
theorem Expression.evaluates_as_checked [Engine] {requests : List Builder.Request} {root : Nat}
    {expression : Expression} (built : (Builder.after requests).build root = .ok expression)
    {schema : Schema} {context : Context}
    (declared : ∀ name ∈ expression.identifiers, ∃ kind value,
      schema name = some kind ∧ context name = .ok value ∧
        (value = .null ∨ value.kind = some kind)) :
    (∀ kind, expression.term.check schema = .ok kind → ∃ known, kind = some known ∧
      ((∃ value, expression.term.evaluate context = .ok value ∧
          (value = .null ∨ value.kind = some known)) ∨
        expression.term.evaluate context = .error .divisionByZero ∨
        ∃ text message, expression.term.evaluate context = .error (.invalidPattern text message) ∧
          Pattern.compile ⟨text, none⟩ = .error message)) ∧
    (expression.term.checkPredicate schema = .ok () →
      ∀ value, expression.term.evaluate context = .ok value →
        value = .null ∨ ∃ b, value = .boolean b) := by
  have sound : expression.term.Sound Unforeseen schema context := by
    refine expression.term.sound unavoidable_unforeseen fun name mentioned => ?_
    obtain ⟨kind, value, hasKind, hasValue, fits⟩ :=
      declared name (mem_identifiers_of_mentions built mentioned)
    refine ⟨kind, hasKind, ?_⟩
    rw [hasValue]
    exact fits
  constructor
  · intro kind checked
    obtain ⟨known, rfl, settles⟩ := sound kind checked
    refine ⟨known, rfl, ?_⟩
    cases result : expression.term.evaluate context with
    | ok value =>
      rw [result] at settles
      exact Or.inl ⟨value, rfl, settles⟩
    | error error =>
      rw [result] at settles
      rcases settles with rfl | ⟨text, message, rfl, refused⟩
      · exact Or.inr (Or.inl rfl)
      · exact Or.inr (Or.inr ⟨text, message, rfl, refused⟩)
  · intro checked value evaluated
    rcases Term.checkPredicate_eq_ok_iff.1 checked with unknown | boolean
    · obtain ⟨_, impossible, _⟩ := sound none unknown
      cases impossible
    · obtain ⟨known, same, settles⟩ := sound _ boolean
      cases same
      rw [evaluated] at settles
      exact settles.imp id Value.exists_boolean

/-- That an age is not below eighteen is checked to be a truth value, and for a candidate of age 21
it is the true one. -/
theorem Expression.evaluates_as_checked_adult :
    let schema : Schema := fun _ => some .integer
    let context : Context := fun _ => .ok (.integer 21)
    ∃ expression value,
      (Builder.after [(.property "age", []), (.literal (.number (.integer 18)), []),
        (.compare .ge, [0, 1])]).build 2 = .ok expression ∧
      expression.term.check schema = .ok (some .boolean) ∧
      expression.term.checkPredicate schema = .ok () ∧
      @Term.evaluate Engine.direct context expression.term = .ok value ∧
      value.kind = some .boolean ∧ ∃ b, value = .boolean b ∧ b = true := by
  intro schema context
  let requests : List Builder.Request :=
    [(.property "age", []), (.literal (.number (.integer 18)), []), (.compare .ge, [0, 1])]
  obtain ⟨expression, built, same⟩ : ∃ expression, (Builder.after requests).build 2 =
      .ok expression ∧ expression.term =
        .compare .ge (.property "age") (.literal (.number (.integer 18))) := ⟨_, rfl, rfl⟩
  have checked : expression.term.check schema = .ok (some .boolean) := by
    rw [same]
    simp only [Term.check]
    rfl
  have predicate : expression.term.checkPredicate schema = .ok () := by
    rw [Term.checkPredicate, checked]
    rfl
  have evaluated : @Term.evaluate Engine.direct context expression.term = .ok (.boolean true) := by
    rw [same]
    simp only [Term.evaluate]
    rfl
  have sound := @evaluates_as_checked Engine.direct requests 2 expression built schema context
    fun name _ => ⟨.integer, .integer 21, rfl, rfl, Or.inr rfl⟩
  obtain ⟨known, isKnown, outcome⟩ := sound.1 _ checked
  obtain rfl := Option.some.inj isKnown
  rw [evaluated] at outcome
  rcases outcome with ⟨value, found, fits⟩ | failed | ⟨_, _, failed, _⟩
  · obtain rfl := Except.ok.inj found
    obtain ⟨b, isTruth⟩ := (sound.2 predicate _ evaluated).resolve_left (by simp)
    exact ⟨expression, _, built, checked, predicate, evaluated, fits.resolve_left (by simp), b,
      isTruth, (Value.boolean.inj isTruth).symm⟩
  · cases failed
  · cases failed

end Sift
