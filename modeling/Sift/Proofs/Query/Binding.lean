import Sift.Proofs.Expression.Checking
import Sift.Proofs.Lookup
import Sift.Query.Binding
import Sift.Staff.Basic

/-!
# What a bound query can fail with

Binding settles what can go wrong with the properties and the kinds of a predicate.  Every property
of the expression is bound (`Resolver.keys_gettersFor`), and an accessor yields null or a value of
the kind that it was bound with (`Getter.fits_of_get`), because a member hands out what it reads in
the form of its declared type.  So the checker, which has seen those kinds, is right about every
candidate.

What is left are failures of access, which are those of the accessors on the candidate, a division
by zero and a pattern that the engine refuses (`BoundQuery.evaluate_of_bind`).  Nothing is assumed
of the strategies or of what the resolver remembers: accessors of any origin keep their kinds.
-/

set_option autoImplicit false

namespace Sift

/-! ## Values of properties -/

theorem Scalar.kind_toValue (scalar : Scalar) (held : scalar.Carrier) :
    (scalar.toValue held).kind = some scalar.kind := by
  cases scalar <;> rfl

/-- What a property holds is null or a value of its kind. -/
theorem PropertyType.fits_toValue (type : PropertyType) (held : type.Carrier) :
    (type.toValue held).Fits type.kind := by
  induction type with
  | required scalar => exact Or.inr (scalar.kind_toValue held)
  | custom type => exact (type.kind_toValue held).elim Or.inr fun null => Or.inl null.2
  | optional inner ih =>
    cases held with
    | none => exact Or.inl rfl
    | some held => exact ih held

variable {ι : Type} {El : ι → Type}

/-- **A getter yields null or a value of its kind**, on whatever object it is used. -/
theorem Getter.fits_of_get [DecidableEq ι] {getter : Getter El} {object : Object El} {value : Value}
    (got : getter.get object = .ok value) : value.Fits getter.kind := by
  unfold Getter.get at got
  split_ifs at got with allowed same
  obtain ⟨held, _, rfl⟩ := map_eq_ok_iff.1 (mapError_eq_ok_iff.1 got)
  exact getter.reading.type.fits_toValue held

/-! ## Resolving the properties of an expression -/

variable [DecidableEq ι] {type : ι}

/-- One property and then the others, each with what the resolver remembers by then. -/
theorem Resolver.gettersFor_cons (resolver : Resolver El) (descriptor : Descriptor El type)
    (name : String) (rest : List String) :
    (resolver.gettersFor descriptor (name :: rest)).2 =
      (resolver.getter descriptor name).2.bind fun getter =>
        ((resolver.getter descriptor name).1.gettersFor descriptor rest).2.map
          ((name, getter) :: ·) := by
  rw [gettersFor]
  rcases resolver.getter descriptor name with ⟨resolver', missing | getter⟩ <;> rfl

/-- If all properties are found, there is an accessor for each, in their order. -/
theorem Resolver.keys_gettersFor {resolver : Resolver El} {descriptor : Descriptor El type}
    {names : List String} {accessors : Accessors El}
    (found : (resolver.gettersFor descriptor names).2 = .ok accessors) :
    accessors.map Prod.fst = names := by
  induction names generalizing resolver accessors with
  | nil =>
    cases found
    rfl
  | cons name rest ih =>
    rw [gettersFor_cons] at found
    obtain ⟨getter, _, foundRest⟩ := bind_eq_ok_iff.1 found
    obtain ⟨others, foundOthers, rfl⟩ := map_eq_ok_iff.1 foundRest
    rw [List.map_cons, ih foundOthers]

/-- Binding resolves the identifiers, and then checks the term under the kinds it has found. -/
theorem BoundQuery.bind_eq (resolver : Resolver El) (descriptor : Descriptor El type)
    (expression : Expression) :
    (bind resolver descriptor expression).2 =
      ((resolver.gettersFor descriptor expression.identifiers).2.mapError .missing).bind
        fun accessors =>
          ((expression.term.checkPredicate (Accessors.schema accessors)).mapError .types).map
            fun _ => ⟨descriptor, expression, accessors⟩ := by
  unfold bind
  rcases resolver.gettersFor descriptor expression.identifiers with
    ⟨resolver', missing | accessors⟩
  · rfl
  · dsimp only [Except.mapError, Except.bind]
    cases expression.term.checkPredicate (Accessors.schema accessors) <;> rfl

/-- A query that is bound has an accessor for each identifier, and its term has passed the check
under their kinds. -/
theorem BoundQuery.checked_of_bind {resolver : Resolver El} {descriptor : Descriptor El type}
    {expression : Expression} {query : BoundQuery El type}
    (bound : (bind resolver descriptor expression).2 = .ok query) :
    query.expression = expression ∧ query.accessors.map Prod.fst = expression.identifiers ∧
      expression.term.checkPredicate query.accessors.schema = .ok () := by
  rw [bind_eq] at bound
  obtain ⟨accessors, found, bound⟩ := bind_eq_ok_iff.1 bound
  obtain ⟨_, checked, rfl⟩ := map_eq_ok_iff.1 bound
  exact ⟨rfl, Resolver.keys_gettersFor (mapError_eq_ok_iff.1 found), mapError_eq_ok_iff.1 checked⟩

/-! ## Evaluating -/

/-- The failures of an accessor on a candidate. -/
def Accessors.Refuses (accessors : Accessors El) (candidate : Object El)
    (error : EvaluationError) : Prop :=
  ∃ name getter fault, (name, getter) ∈ accessors ∧ getter.get candidate = .error fault ∧
    error = .access fault

/-- A bound property has a known kind, and on a candidate it is null, of that kind or refused. -/
theorem Accessors.declared {accessors : Accessors El} {permitted : EvaluationError → Prop}
    {candidate : Object El} (refused : ∀ error, accessors.Refuses candidate error → permitted error)
    {name : String} (bound : name ∈ accessors.map Prod.fst) :
    Declared permitted accessors.schema (accessors.context candidate) name := by
  obtain ⟨getter, found⟩ := exists_lookup_of_mem bound
  refine ⟨getter.kind, by simp [schema, found], ?_⟩
  simp only [context, found]
  cases got : getter.get candidate with
  | error fault => exact refused _ ⟨name, getter, fault, mem_of_lookup found, got, rfl⟩
  | ok value => exact Getter.fits_of_get got

/-- **A query that binds does not fail for want of a binding or for a wrong kind.**  Whatever the
resolver does and remembers, and of whatever type the candidate is, the query has a truth value for
it, or evaluation fails because an accessor refuses the candidate, by a division by zero, or by a
pattern that the engine refuses. -/
theorem BoundQuery.evaluate_of_bind [Engine] {requests : List Builder.Request} {root : Nat}
    {expression : Expression} (built : (Builder.after requests).build root = .ok expression)
    {resolver : Resolver El} {descriptor : Descriptor El type} {query : BoundQuery El type}
    (bound : (bind resolver descriptor expression).2 = .ok query) (candidate : Object El) :
    (∃ truth, query.evaluate candidate = .ok truth) ∨
    (∃ name getter fault, (name, getter) ∈ query.accessors ∧
      getter.get candidate = .error fault ∧
      query.evaluate candidate = .error (.evaluation (.access fault))) ∨
    query.evaluate candidate = .error (.evaluation .divisionByZero) ∨
    ∃ text message, query.evaluate candidate = .error (.evaluation (.invalidPattern text message)) ∧
      Pattern.compile ⟨text, none⟩ = .error message := by
  obtain ⟨rfl, keys, checked⟩ := checked_of_bind bound
  let permitted (error : EvaluationError) : Prop :=
    query.accessors.Refuses candidate error ∨ Unforeseen error
  have unavoidable : Unavoidable permitted :=
    ⟨Or.inr unavoidable_unforeseen.divisionByZero,
      fun text message refused => Or.inr (unavoidable_unforeseen.refused text message refused)⟩
  have sound : query.expression.term.Sound permitted query.accessors.schema
      (query.accessors.context candidate) := by
    refine query.expression.term.sound unavoidable fun name mentioned => ?_
    apply Accessors.declared fun error refuses => Or.inl refuses
    rw [keys]
    exact Expression.mem_identifiers_of_mentions built mentioned
  have settles : Settles permitted (Value.Fits .boolean)
      (query.expression.term.evaluate (query.accessors.context candidate)) := by
    apply sound.settles_boolean
    rcases Term.checkPredicate_eq_ok_iff.1 checked with unknown | boolean
    · exact ⟨none, unknown, nofun⟩
    · exact ⟨some .boolean, boolean, fun known isKnown => Option.some.inj isKnown ▸ rfl⟩
  unfold evaluate
  cases result : query.expression.term.evaluate (query.accessors.context candidate) with
  | error error =>
    rw [result] at settles
    rcases settles with ⟨name, getter, fault, member, refused, rfl⟩ | rfl | ⟨text, message, rfl, no⟩
    · exact Or.inr (Or.inl ⟨name, getter, fault, member, refused, rfl⟩)
    · exact Or.inr (Or.inr (Or.inl rfl))
    · exact Or.inr (Or.inr (Or.inr ⟨text, message, rfl, no⟩))
  | ok value =>
    rw [result] at settles
    rcases settles with rfl | boolean
    · exact Or.inl ⟨none, rfl⟩
    · obtain ⟨b, rfl⟩ := Value.exists_boolean boolean
      exact Or.inl ⟨some b, rfl⟩

/-- A query for the age of employees that is asked about a person fails because its accessor does
not take the person. -/
theorem BoundQuery.evaluate_of_bind_foreign :
    let candidate : Object Staff := ⟨StaffType.person, ({} : Person)⟩
    ∃ expression query getter fault,
      (Builder.after [(.property "age", []), (.literal (.number (.integer 18)), []),
        (.compare .ge, [0, 1])]).build 2 = .ok expression ∧
      (bind (.ofStrategies [Strategy.fields]) Employee.descriptor expression).2 = .ok query ∧
      ("age", getter) ∈ query.accessors ∧ getter.get candidate = .error fault ∧
      fault.fault = .argumentMismatch ∧
      @evaluate _ _ _ _ Engine.direct query candidate = .error (.evaluation (.access fault)) := by
  intro candidate
  let requests : List Builder.Request :=
    [(.property "age", []), (.literal (.number (.integer 18)), []), (.compare .ge, [0, 1])]
  obtain ⟨expression, built, same, names⟩ : ∃ expression, (Builder.after requests).build 2 =
      .ok expression ∧ expression.term =
        .compare .ge (.property "age") (.literal (.number (.integer 18))) ∧
      expression.identifiers = ["age"] := ⟨_, rfl, rfl, rfl⟩
  obtain ⟨query, getter, bound, isTerm, accessors, refused⟩ : ∃ query getter,
      (bind (.ofStrategies [Strategy.fields]) Employee.descriptor expression).2 = .ok query ∧
      query.expression.term = .compare .ge (.property "age") (.literal (.number (.integer 18))) ∧
      query.accessors = [("age", getter)] ∧
      getter.get candidate = .error (getter.error .argumentMismatch) := by
    rw [bind_eq, names, same]
    simp only [Term.checkPredicate, Term.check]
    exact ⟨_, _, rfl, same, rfl, rfl⟩
  have evaluated : @evaluate _ _ _ _ Engine.direct query candidate =
      .error (.evaluation (.access (getter.error .argumentMismatch))) := by
    have age : query.accessors.context candidate "age" =
        .error (.access (getter.error .argumentMismatch)) := by
      simp only [Accessors.context, accessors, List.lookup_cons_self, refused]
      rfl
    unfold evaluate
    rw [isTerm]
    simp only [Term.evaluate, age]
    rfl
  have outcome := @evaluate_of_bind _ _ _ _ Engine.direct requests 2 expression built _ _ query
    bound candidate
  rw [evaluated] at outcome
  rcases outcome with ⟨_, failed⟩ | ⟨name, getter', fault, member, fails, found⟩ | failed |
    ⟨_, _, failed, _⟩
  · cases failed
  · cases found
    rw [accessors] at member
    obtain ⟨rfl, rfl⟩ := Prod.mk.inj (List.mem_singleton.1 member)
    exact ⟨expression, query, getter', _, built, bound, accessors ▸ List.mem_singleton_self _,
      fails, rfl, evaluated⟩
  · cases failed
  · cases failed

end Sift
