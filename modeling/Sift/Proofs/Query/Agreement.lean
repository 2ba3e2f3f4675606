import Mathlib.Data.List.Forall2
import Sift.Proofs.Query.Binding
import Sift.Proofs.Reflection.Memory
import Sift.Query.Selection

/-!
# Queries that cannot be told apart

A query sees of a getter its kind, when it is bound, and what the getter gives for candidates, when
it is evaluated.  So getters that agree in both may stand in for each other: under accessors that
agree a predicate passes the same checks, and it has the same truth value or the same failure for
every candidate (`BoundQuery.Agrees.evaluate_eq`).

If for whatever some strategies find others find something that agrees, then what binds with the
first binds with the second, and the two queries agree (`BoundQuery.exists_agrees_of_covers`).
This does not depend on what the resolvers were asked before, as long as they remember what their
strategies find.
-/

set_option autoImplicit false

namespace Sift

variable {ι : Type} {El : ι → Type} [DecidableEq ι] {type : ι}

/-! ## Getters -/

/-- Two getters of one kind that give the same for every object, a value or a failure. -/
structure Getter.Agrees (first second : Getter El) : Prop where
  kind : first.kind = second.kind
  get : ∀ object, first.get object = second.get object

/-- Two members of one type agree if they read the same, whatever they are and whoever sees them. -/
theorem Getter.agrees_ofMember {start : ι} (path : Path El start type)
    (declared : Declaration (El type)) (property : String) (reading : Reading (El type))
    {name name' : String} {sort sort' : MemberSort} {visibility visibility' : Visibility} :
    Getter.Agrees
      ⟨.ofMember path declared property name sort visibility, reading⟩
      ⟨.ofMember path declared property name' sort' visibility', reading⟩ where
  kind := rfl
  get _ := (if_pos (Bool.or_true _)).trans (if_pos (Bool.or_true _)).symm

/-! ## Accessors -/

namespace Accessors

/-- Accessors for the same properties that agree one by one. -/
def Agree (first second : Accessors El) : Prop :=
  List.Forall₂ (fun entry entry' => entry.1 = entry'.1 ∧ entry.2.Agrees entry'.2) first second

variable {first second : Accessors El} (agree : first.Agree second)
include agree

theorem Agree.lookup (name : String) :
    Option.Rel Getter.Agrees (first.lookup name) (second.lookup name) := by
  induction agree with
  | nil => exact .none
  | @cons entry entry' _ _ same _ ih =>
    obtain ⟨key, getter⟩ := entry
    obtain ⟨key', getter'⟩ := entry'
    obtain ⟨rfl, agrees⟩ := same
    rw [List.lookup_cons, List.lookup_cons]
    cases name == key with
    | true => exact .some agrees
    | false => exact ih

theorem Agree.schema_eq : first.schema = second.schema := by
  funext name
  have related := agree.lookup name
  unfold schema
  generalize first.lookup name = found at related ⊢
  generalize second.lookup name = found' at related ⊢
  cases related with
  | some agrees => exact congrArg some agrees.kind
  | none => rfl

theorem Agree.context_eq (candidate : Object El) :
    first.context candidate = second.context candidate := by
  funext name
  have related := agree.lookup name
  unfold context
  generalize first.lookup name = found at related ⊢
  generalize second.lookup name = found' at related ⊢
  cases related with
  | some agrees => exact congrArg (Except.mapError EvaluationError.access) (agrees.get candidate)
  | none => rfl

end Accessors

/-! ## Queries -/

/-- Two queries for one expression under accessors that agree. -/
structure BoundQuery.Agrees (first second : BoundQuery El type) : Prop where
  expression : first.expression = second.expression
  accessors : first.accessors.Agree second.accessors

namespace BoundQuery.Agrees

variable [Engine] {first second : BoundQuery El type} (agrees : first.Agrees second)
include agrees

/-- **Queries that agree have the same truth value or the same failure for every candidate.** -/
theorem evaluate_eq (candidate : Object El) :
    first.evaluate candidate = second.evaluate candidate := by
  unfold evaluate
  rw [agrees.expression, agrees.accessors.context_eq]

/-- They select the same candidates. -/
theorem select_eq (candidates : List (El type)) :
    first.select candidates = second.select candidates := by
  induction candidates with
  | nil => rfl
  | cons candidate rest ih => rw [select, select, accepts, accepts, agrees.evaluate_eq, ih]

end BoundQuery.Agrees

/-! ## Resolving with what strategies find -/

namespace Strategy

/-- What strategies find for the properties of an expression, up to the first that is missing. -/
def findGetters (strategies : List (Strategy El)) (descriptor : Descriptor El type) :
    List String → Except MissingAccessor (Accessors El)
  | [] => .ok []
  | property :: rest =>
    (descriptor.answer .getter property (findGetter strategies descriptor property)).bind
      fun getter => (findGetters strategies descriptor rest).map ((property, getter) :: ·)

/-- Whatever the first strategies find for a property of a type, the second ones find something that
agrees with it. -/
def Covers (second first : List (Strategy El)) (descriptor : Descriptor El type) : Prop :=
  ∀ property getter, findGetter first descriptor property = some getter →
    ∃ getter', findGetter second descriptor property = some getter' ∧ getter.Agrees getter'

theorem Covers.findGetters {first second : List (Strategy El)} {descriptor : Descriptor El type}
    (covers : Covers second first descriptor) {names : List String} {accessors : Accessors El}
    (found : findGetters first descriptor names = .ok accessors) :
    ∃ accessors', findGetters second descriptor names = .ok accessors' ∧
      accessors.Agree accessors' := by
  induction names generalizing accessors with
  | nil =>
    cases found
    exact ⟨[], rfl, .nil⟩
  | cons name rest ih =>
    obtain ⟨getter, foundFirst, foundRest⟩ := bind_eq_ok_iff.1 found
    obtain ⟨others, foundOthers, rfl⟩ := map_eq_ok_iff.1 foundRest
    obtain ⟨getter', foundFirst', agrees⟩ :=
      covers name getter (Descriptor.answer_eq_ok_iff.1 foundFirst)
    obtain ⟨others', foundOthers', agree⟩ := ih foundOthers
    refine ⟨(name, getter') :: others', ?_, .cons ⟨rfl, agrees⟩ agree⟩
    rw [Strategy.findGetters, foundFirst', foundOthers']
    rfl

end Strategy

variable {describe : (type : ι) → Descriptor El type} {strategies : List (Strategy El)}
  {resolver : Resolver El}

/-- A resolver that searches with strategies, and remembers for described types only what they find
there. -/
structure Resolver.Recalls (resolver : Resolver El) (strategies : List (Strategy El))
    (describe : (type : ι) → Descriptor El type) : Prop where
  searches : resolver.strategies = strategies
  right : ∀ type property getter, ((describe type).key property, getter) ∈ resolver.getters →
    Strategy.findGetter strategies (describe type) property = some getter

namespace Resolver

omit [DecidableEq ι] in
theorem recalls_ofStrategies : (ofStrategies strategies).Recalls strategies describe :=
  ⟨rfl, nofun⟩

/-- Such a resolver answers with what is found, and goes on to recall what it finds. -/
theorem Recalls.getter (recalls : resolver.Recalls strategies describe) (type : ι)
    (property : String) :
    (resolver.getter (describe type) property).2 = (describe type).answer .getter property
        (Strategy.findGetter strategies (describe type) property) ∧
      (resolver.getter (describe type) property).1.Recalls strategies describe := by
  obtain ⟨rfl, right⟩ := recalls
  rw [Resolver.getter_eq, consult]
  cases hit : resolver.getters.lookup ((describe type).key property) with
  | some getter =>
    rw [right type property getter (mem_of_lookup hit)]
    exact ⟨rfl, rfl, right⟩
  | none =>
    refine ⟨rfl, rfl, fun type' property' getter member => ?_⟩
    cases found : Strategy.findGetter resolver.strategies (describe type) property with
    | none =>
      rw [found] at member
      exact right type' property' getter member
    | some value =>
      rw [found] at member
      rcases List.mem_cons.1 member with same | before
      · obtain ⟨sameKey, rfl⟩ := Prod.mk.inj same
        obtain ⟨rfl, _, _, rfl⟩ := ResolverKey.mk.inj sameKey
        exact found
      · exact right type' property' getter before

theorem Recalls.gettersFor (recalls : resolver.Recalls strategies describe) (type : ι)
    (names : List String) :
    (resolver.gettersFor (describe type) names).2 =
        Strategy.findGetters strategies (describe type) names ∧
      (resolver.gettersFor (describe type) names).1.Recalls strategies describe := by
  induction names generalizing resolver with
  | nil => exact ⟨rfl, recalls⟩
  | cons name rest ih =>
    obtain ⟨answered, recallsNext⟩ := recalls.getter type name
    obtain ⟨answeredRest, recallsRest⟩ := ih recallsNext
    constructor
    · rw [gettersFor_cons, answered, answeredRest]
      rfl
    · rw [Resolver.gettersFor]
      rcases result : resolver.getter (describe type) name with ⟨resolver', missing | getter⟩
      · rw [result] at recallsNext
        exact recallsNext
      · rw [result] at recallsRest
        exact recallsRest

end Resolver

/-! ## Binding -/

namespace BoundQuery

/-- What binding comes to with a resolver that recalls what strategies find. -/
def bindWith (strategies : List (Strategy El)) (descriptor : Descriptor El type)
    (expression : Expression) : Except QueryError (BoundQuery El type) :=
  ((Strategy.findGetters strategies descriptor expression.identifiers).mapError .missing).bind
    fun accessors =>
      ((expression.term.checkPredicate (Accessors.schema accessors)).mapError .types).map
        fun _ => ⟨descriptor, expression, accessors⟩

/-- Binding asks the resolver for nothing but the getters. -/
theorem resolver_bind (resolver : Resolver El) (descriptor : Descriptor El type)
    (expression : Expression) :
    (bind resolver descriptor expression).1 =
      (resolver.gettersFor descriptor expression.identifiers).1 := by
  unfold bind
  rcases resolver.gettersFor descriptor expression.identifiers with
    ⟨resolver', missing | accessors⟩
  · rfl
  · dsimp only
    cases expression.term.checkPredicate (Accessors.schema accessors) <;> rfl

theorem bind_eq_bindWith (recalls : resolver.Recalls strategies describe) (type : ι)
    (expression : Expression) :
    (bind resolver (describe type) expression).2 = bindWith strategies (describe type) expression ∧
      (bind resolver (describe type) expression).1.Recalls strategies describe := by
  obtain ⟨answered, recallsNext⟩ := recalls.gettersFor type expression.identifiers
  rw [bind_eq, resolver_bind, answered]
  exact ⟨rfl, recallsNext⟩

/-- What the predicate of a text comes to with a resolver that recalls what strategies find. -/
def ofTextWith [Engine] (strategies : List (Strategy El)) (descriptor : Descriptor El type)
    (text : String) : Except QueryError (BoundQuery El type) :=
  ((Parser.parse text).mapError .parse).bind (bindWith strategies descriptor)

theorem ofText_eq_ofTextWith [Engine] (recalls : resolver.Recalls strategies describe) (type : ι)
    (text : String) :
    (ofText resolver (describe type) text).2 = ofTextWith strategies (describe type) text ∧
      (ofText resolver (describe type) text).1.Recalls strategies describe := by
  unfold ofText ofTextWith
  cases Parser.parse text with
  | error error => exact ⟨rfl, recalls⟩
  | ok expression => exact bind_eq_bindWith recalls type expression

/-- **What binds with some strategies binds with others that cover them, and the queries agree.** -/
theorem exists_agrees_of_covers [Engine] {first second : List (Strategy El)}
    {descriptor : Descriptor El type} (covers : Strategy.Covers second first descriptor)
    {text : String} {query : BoundQuery El type}
    (bound : ofTextWith first descriptor text = .ok query) :
    ∃ query', ofTextWith second descriptor text = .ok query' ∧ query.Agrees query' := by
  obtain ⟨expression, parsed, bound⟩ := bind_eq_ok_iff.1 bound
  obtain ⟨accessors, found, bound⟩ := bind_eq_ok_iff.1 bound
  obtain ⟨_, checked, rfl⟩ := map_eq_ok_iff.1 bound
  obtain ⟨accessors', found', agree⟩ := covers.findGetters (mapError_eq_ok_iff.1 found)
  refine ⟨⟨descriptor, expression, accessors'⟩, ?_, rfl, agree⟩
  rw [ofTextWith, parsed, Except.bind, bindWith, found', Except.mapError, Except.bind,
    ← agree.schema_eq, checked]
  rfl

end BoundQuery

/-- A resolver that has served earlier queries. -/
def Resolver.afterQueries [Engine] (strategies : List (Strategy El))
    (describe : (type : ι) → Descriptor El type) (earlier : List (ι × String)) : Resolver El :=
  earlier.foldl (fun resolver query =>
    (BoundQuery.ofText resolver (describe query.1) query.2).1) (.ofStrategies strategies)

/-- **Serving queries keeps a resolver right about the described types.** -/
theorem Resolver.recalls_afterQueries [Engine] (earlier : List (ι × String)) :
    (afterQueries strategies describe earlier).Recalls strategies describe := by
  induction earlier using List.reverseRecOn with
  | nil => exact recalls_ofStrategies
  | append_singleton before last ih =>
    rw [afterQueries, List.foldl_append]
    exact (BoundQuery.ofText_eq_ofTextWith ih last.1 last.2).2

end Sift
