import Sift.Proofs.Expression.Checking
import Sift.Proofs.Expression.Levels
import Sift.Proofs.Query.Agreement

/-!
# What binding comes to

The identifiers of a finished expression are the properties that its term mentions, wherever they
stand in it (`Expression.mem_identifiers_iff_mentions`), and they are resolved in ascending order up
to the first for which nothing is found.  So binding fails for the least property that is missing,
if there is one, and the kinds are not looked at (`Strategy.findGetters_eq_error_iff`).  Otherwise
the check is made under the kinds of what was found, and it depends on no other property
(`Term.check_congr`).  The whole is `BoundQuery.bind_complete`.

What a resolver remembers plays no part in this, whatever it was asked before, since resolving the
identifiers is but a number of further requests (`Session.Consistent.gettersFor`).
-/

set_option autoImplicit false

namespace Sift

/-! ## What a check depends on -/

/-- The check of a node depends on the schema only if the node is a property. -/
theorem NodeKind.checked?_congr {before after : Schema} {kind : NodeKind}
    (agree : ∀ name, kind = .property name → before name = after name) (operands : List Checked) :
    kind.checked? before operands = kind.checked? after operands := by
  cases kind with
  | property name =>
    cases operands with
    | nil => exact congrArg (fun kind => some (Except.ok kind)) (agree name rfl)
    | cons first rest => rfl
  | _ =>
    -- no node with other operands than runs takes more than three of them
    rcases operands with _ | ⟨first, _ | ⟨second, _ | ⟨third, _ | ⟨fourth, rest⟩⟩⟩⟩ <;> rfl

/-- **Schemas that agree on the properties of a term give it the same kind or the same error.** -/
theorem Term.check_congr {term : Term} {before after : Schema}
    (agree : ∀ name, term.Mentions name → before name = after name) :
    term.check before = term.check after := by
  -- a connective is checked on its run, which reaches further down than its operands
  suffices both : term.check before = term.check after ∧ ∀ operator,
      (term.runBefore operator []).map (fun operand => operand.check before) =
        (term.runBefore operator []).map fun operand => operand.check after from both.1
  induction term using operandInduction with
  | step term ih =>
    have inside := fun operand member => ih operand member fun name mentioned =>
      agree name (.inside member mentioned)
    have flat : term.flatOperands.map (fun operand => operand.check before) =
        term.flatOperands.map fun operand => operand.check after := by
      cases term with
      | connect operator left right =>
        show (runOf operator left right).map _ = (runOf operator left right).map _
        rw [runOf_eq_append, List.map_append, List.map_append,
          (inside left (by simp [operands])).2 operator, List.map_singleton, List.map_singleton,
          (inside right (by simp [operands])).1]
      | _ => exact List.map_congr_left fun operand member => (inside operand member).1
    have same : term.check before = term.check after := by
      refine Option.some.inj ?_
      rw [← checked?_flatOperands, ← checked?_flatOperands, flat]
      refine NodeKind.checked?_congr (fun name isProperty => agree name ?_) _
      cases term <;> cases isProperty
      exact .here
    refine ⟨same, fun operator => ?_⟩
    rcases runBefore_nil_cases operator term with ⟨left, right, rfl, run⟩ | alone
    · rw [run]
      exact flat
    · rw [alone, List.map_singleton, List.map_singleton, same]

theorem Term.checkPredicate_congr {term : Term} {before after : Schema}
    (agree : ∀ name, term.Mentions name → before name = after name) :
    term.checkPredicate before = term.checkPredicate after := by
  rw [checkPredicate, checkPredicate, check_congr agree]

/-! ## The properties of an expression -/

/-- A property that a path leads to is mentioned in the term that the path starts from. -/
theorem Builder.Forest.mentions_of_follow {builder : Builder} (forest : builder.Forest)
    {id last : Nat} {path : List Nat} (leads : follow builder.nodes id path = some last)
    {node : Node} {name : String} (found : builder.nodes[last]? = some node)
    (named : node.kind = .property name) {term : Term} (carries : builder.Carries id term) :
    term.Mentions name := by
  induction path generalizing id term with
  | nil =>
    obtain rfl := Option.some.inj leads
    obtain ⟨node', found', sameKind, -⟩ := forest.node_of_carries carries
    obtain rfl := Option.some.inj (found.symm.trans found')
    rw [named] at sameKind
    cases term <;> cases sameKind
    exact .here
  | cons position rest ih =>
    obtain ⟨child, isChild, leads⟩ := Option.bind_eq_some_iff.1 leads
    obtain ⟨above, foundAbove, at'⟩ := childAt_eq_some_iff.1 isChild
    obtain ⟨node', found', -, children⟩ := forest.node_of_carries carries
    obtain rfl := Option.some.inj (foundAbove.symm.trans found')
    obtain ⟨inside, rfl⟩ := List.getElem?_eq_some_iff.1 at'
    exact .inside (List.getElem_mem (children.length_eq ▸ inside))
      (ih leads (children.get inside (children.length_eq ▸ inside)))

/-- **The identifiers of a finished expression are the properties that its term mentions.** -/
theorem Expression.mem_identifiers_iff_mentions {requests : List Builder.Request} {root : Nat}
    {expression : Expression} (built : (Builder.after requests).build root = .ok expression)
    {name : String} : name ∈ expression.identifiers ↔ expression.term.Mentions name := by
  refine ⟨fun listed => ?_, mem_identifiers_of_mentions built⟩
  have forest := Builder.forest_after requests
  obtain ⟨only, sameNodes, -⟩ := Builder.build_eq_ok_iff.1 built
  obtain ⟨id, node, found, named⟩ := mem_identifiers.1 listed
  rw [sameNodes] at found
  obtain ⟨path, leads⟩ := forest.exists_follow only (Array.getElem?_eq_some_iff.1 found).1
  exact forest.mentions_of_follow leads found named (Builder.termAt_root built)

/-! ## Resolving in order -/

variable {ι : Type} {El : ι → Type} {type : ι}

namespace Strategy

variable {strategies : List (Strategy El)} {descriptor : Descriptor El type} {names : List String}

/-- Of ascending names the least one is missed for which nothing is found. -/
theorem findGetters_eq_error_iff (ascending : names.Pairwise (· < ·)) {missing : MissingAccessor} :
    findGetters strategies descriptor names = .error missing ↔
      ∃ name ∈ names, findGetter strategies descriptor name = none ∧
        (∀ other ∈ names, findGetter strategies descriptor other = none → name ≤ other) ∧
        missing = ⟨.getter, descriptor.name, name⟩ := by
  induction names with
  | nil =>
    constructor
    · intro failed
      cases failed
    · rintro ⟨_, member, -⟩
      cases member
  | cons first rest ih =>
    obtain ⟨before, ascendingRest⟩ := List.pairwise_cons.1 ascending
    rw [findGetters]
    cases found : findGetter strategies descriptor first with
    | none =>
      constructor
      · intro failed
        refine ⟨first, List.mem_cons_self, found, fun other member _ => ?_,
          (Except.error.inj failed).symm⟩
        rcases List.mem_cons.1 member with rfl | later
        · exact le_refl _
        · exact le_of_lt (before other later)
      · rintro ⟨name, member, -, least, rfl⟩
        rcases List.mem_cons.1 member with rfl | later
        · rfl
        · exact absurd (before name later) (not_lt.2 (least first List.mem_cons_self found))
    | some getter =>
      have further : ((descriptor.answer .getter first (some getter)).bind fun getter =>
          (findGetters strategies descriptor rest).map ((first, getter) :: ·)) = .error missing ↔
            findGetters strategies descriptor rest = .error missing := map_eq_error_iff
      have isFound : findGetter strategies descriptor first ≠ none :=
        Option.ne_none_iff_exists'.2 ⟨getter, found⟩
      rw [further, ih ascendingRest]
      constructor
      · rintro ⟨name, later, unfound, least, rfl⟩
        refine ⟨name, List.mem_cons_of_mem _ later, unfound, fun other member => ?_, rfl⟩
        rcases List.mem_cons.1 member with rfl | later
        · exact fun none => absurd none isFound
        · exact least other later
      · rintro ⟨name, member, unfound, least, rfl⟩
        rcases List.mem_cons.1 member with rfl | later
        · exact absurd unfound isFound
        · exact ⟨name, later, unfound,
            fun other inRest => least other (List.mem_cons_of_mem _ inRest), rfl⟩

/-- Getters are found for all names, or something is missing. -/
theorem exists_findGetters_iff :
    (∃ accessors, findGetters strategies descriptor names = .ok accessors) ↔
      ∀ name ∈ names, findGetter strategies descriptor name ≠ none := by
  induction names with
  | nil => exact iff_of_true ⟨[], rfl⟩ nofun
  | cons first rest ih =>
    rw [List.forall_mem_cons, ← ih, findGetters]
    simp only [bind_eq_ok_iff, map_eq_ok_iff, Descriptor.answer_eq_ok_iff,
      Option.ne_none_iff_exists']
    constructor
    · rintro ⟨_, getter, found, others, foundRest, -⟩
      exact ⟨⟨getter, found⟩, others, foundRest⟩
    · rintro ⟨⟨getter, found⟩, others, foundRest⟩
      exact ⟨_, getter, found, others, foundRest, rfl⟩

/-- What is found for the names is what is found for each of them. -/
theorem lookup_of_findGetters [DecidableEq ι] {accessors : Accessors El}
    (found : findGetters strategies descriptor names = .ok accessors) :
    accessors.map Prod.fst = names ∧
      ∀ name ∈ names, accessors.lookup name = findGetter strategies descriptor name := by
  induction names generalizing accessors with
  | nil =>
    cases found
    exact ⟨rfl, nofun⟩
  | cons first rest ih =>
    obtain ⟨getter, foundFirst, foundRest⟩ := bind_eq_ok_iff.1 found
    obtain ⟨others, foundOthers, rfl⟩ := map_eq_ok_iff.1 foundRest
    obtain ⟨keys, lookups⟩ := ih foundOthers
    refine ⟨congrArg (first :: ·) keys, fun name member => ?_⟩
    rw [List.lookup_cons]
    by_cases same : name = first
    · rw [same, beq_self_eq_true, Descriptor.answer_eq_ok_iff.1 foundFirst]
    · rw [beq_false_of_ne same]
      exact lookups name ((List.mem_cons.1 member).resolve_left same)

end Strategy

/-! ## Binding with what is found -/

namespace BoundQuery

variable {strategies : List (Strategy El)} {descriptor : Descriptor El type}
  {expression : Expression}

theorem bindWith_eq_missing_iff {missing : MissingAccessor} :
    bindWith strategies descriptor expression = .error (.missing missing) ↔
      Strategy.findGetters strategies descriptor expression.identifiers = .error missing := by
  rw [bindWith, bind_eq_error_iff]
  simp only [mapError_eq_error_iff, map_eq_error_iff, QueryError.missing.injEq, reduceCtorEq,
    and_false, exists_false, or_false, exists_eq_right]

theorem bindWith_eq_types_iff {error : TypeError} :
    bindWith strategies descriptor expression = .error (.types error) ↔
      ∃ accessors, Strategy.findGetters strategies descriptor expression.identifiers =
        .ok accessors ∧ expression.term.checkPredicate accessors.schema = .error error := by
  rw [bindWith, bind_eq_error_iff]
  simp only [mapError_eq_error_iff, mapError_eq_ok_iff, map_eq_error_iff, QueryError.types.injEq,
    reduceCtorEq, and_false, exists_false, false_or, exists_eq_right]

theorem bindWith_eq_ok_iff {query : BoundQuery El type} :
    bindWith strategies descriptor expression = .ok query ↔
      ∃ accessors, Strategy.findGetters strategies descriptor expression.identifiers =
        .ok accessors ∧ expression.term.checkPredicate accessors.schema = .ok () ∧
          ⟨descriptor, expression, accessors⟩ = query := by
  rw [bindWith, bind_eq_ok_iff]
  simp only [mapError_eq_ok_iff, map_eq_ok_iff, Unique.exists_iff, PUnit.default_eq_unit]

end BoundQuery

/-- The check is made under the kinds of what is found for the properties. -/
theorem Expression.checkPredicate_findGetters [DecidableEq ι] {steps : List Builder.Request}
    {root : Nat} {expression : Expression}
    (built : (Builder.after steps).build root = .ok expression) {strategies : List (Strategy El)}
    {descriptor : Descriptor El type} {accessors : Accessors El}
    (found : Strategy.findGetters strategies descriptor expression.identifiers = .ok accessors) :
    expression.term.checkPredicate accessors.schema = expression.term.checkPredicate fun name =>
      (Strategy.findGetter strategies descriptor name).map Getter.kind := by
  refine Term.checkPredicate_congr fun name mentioned => congrArg (Option.map Getter.kind) ?_
  exact (Strategy.lookup_of_findGetters found).2 name (mem_identifiers_of_mentions built mentioned)

/-! ## Binding in a session -/

variable [DecidableEq ι]

/-- **Resolving names one after the other is asking for each of them, so a session answers with what
is found, whatever it was asked before.** -/
theorem Session.Consistent.gettersFor {strategies : List (Strategy El)}
    {asked : List (Request El)} {session : Session El}
    (consistent : session.Consistent strategies asked) (coherent : Coherent asked)
    {descriptor : Descriptor El type} {names : List String}
    (asks : ∀ name ∈ names, .getter descriptor name ∈ asked) :
    (session.resolver.gettersFor descriptor names).2 =
      Strategy.findGetters strategies descriptor names := by
  induction names generalizing session with
  | nil => rfl
  | cons name rest ih =>
    obtain ⟨member, asksRest⟩ := List.forall_mem_cons.1 asks
    have further := ih (consistent.step coherent member) asksRest
    obtain ⟨consulted, -⟩ :=
      consistent.getters.consult (coherent.right_iff (fun _ _ _ => rfl) member)
    have answered : (session.resolver.getter descriptor name).2 =
        descriptor.answer .getter name (Strategy.findGetter strategies descriptor name) := by
      rw [Resolver.getter_eq, consistent.searches]
      exact congrArg (descriptor.answer .getter name) consulted
    rw [Resolver.gettersFor_cons, answered, Strategy.findGetters, ← further]
    rfl

/-- With a resolver in use binding comes to the same as with what is found. -/
theorem BoundQuery.bind_after {strategies : List (Strategy El)} {requests : List (Request El)}
    {descriptor : Descriptor El type} {expression : Expression}
    (coherent : Session.Coherent (requests ++ expression.identifiers.map (.getter descriptor))) :
    (bind (Session.after strategies requests).resolver descriptor expression).2 =
      bindWith strategies descriptor expression := by
  have consistent : (Session.after strategies requests).Consistent strategies _ :=
    Session.consistent_after coherent (List.subset_append_left ..)
  have asks : ∀ name ∈ expression.identifiers, Request.getter descriptor name ∈
      requests ++ expression.identifiers.map (.getter descriptor) :=
    fun _ listed => List.mem_append_right _ (List.mem_map_of_mem listed)
  rw [bind_eq, consistent.gettersFor coherent asks, bindWith]

/-- **Binding settles all properties and then the kinds.**  Let a finished expression be bound with
a resolver that was asked anything before, and let those requests and the ones for the properties of
the expression be coherent.  Binding fails for a missing property if and only if for some property
that the term mentions, wherever it stands, the strategies find nothing; it names the least of
these, whatever the kinds are.  Otherwise it fails with an error of types if and only if the term is
no predicate under the kinds of the getters that are found.  Otherwise it gives a query with exactly
the properties of the term as keys, in ascending order, each with the getter that is found for
it. -/
theorem BoundQuery.bind_complete {steps : List Builder.Request} {root : Nat}
    {expression : Expression} (built : (Builder.after steps).build root = .ok expression)
    {strategies : List (Strategy El)} {requests : List (Request El)}
    {descriptor : Descriptor El type}
    (coherent : Session.Coherent (requests ++ expression.identifiers.map (.getter descriptor))) :
    let bound := (bind (Session.after strategies requests).resolver descriptor expression).2
    let find := Strategy.findGetter strategies descriptor
    let kinds : Schema := fun name => (find name).map Getter.kind
    ((∃ missing, bound = .error (.missing missing)) ↔
      ∃ name, expression.term.Mentions name ∧ find name = none) ∧
    (∀ missing, bound = .error (.missing missing) ↔
      ∃ name, expression.term.Mentions name ∧ find name = none ∧
        (∀ other, expression.term.Mentions other → find other = none → name ≤ other) ∧
        missing = ⟨.getter, descriptor.name, name⟩) ∧
    (∀ error, bound = .error (.types error) ↔
      (∀ name, expression.term.Mentions name → find name ≠ none) ∧
        expression.term.checkPredicate kinds = .error error) ∧
    ((∃ query, bound = .ok query) ↔
      (∀ name, expression.term.Mentions name → find name ≠ none) ∧
        expression.term.checkPredicate kinds = .ok ()) ∧
    ∀ query, bound = .ok query →
      query.descriptor = descriptor ∧ query.expression = expression ∧
        (query.accessors.map Prod.fst).Pairwise (· < ·) ∧
        (∀ name, name ∈ query.accessors.map Prod.fst ↔ expression.term.Mentions name) ∧
        ∀ name, expression.term.Mentions name → query.accessors.lookup name = find name := by
  intro bound find kinds
  have listed (name : String) : expression.term.Mentions name ↔ name ∈ expression.identifiers :=
    (Expression.mem_identifiers_iff_mentions built).symm
  have checked {accessors : Accessors El} (found : Strategy.findGetters strategies descriptor
      expression.identifiers = .ok accessors) :
      expression.term.checkPredicate accessors.schema = expression.term.checkPredicate kinds :=
    Expression.checkPredicate_findGetters built found
  rw [show bound = bindWith strategies descriptor expression from bind_after coherent]
  simp only [listed]
  refine ⟨?_, fun missing => ?_, fun error => ?_, ?_, fun query isBound => ?_⟩
  · simp only [bindWith_eq_missing_iff, exists_error_iff]
    rw [← not_exists, Strategy.exists_findGetters_iff]
    simp only [not_forall, not_not, exists_prop]
    rfl
  · rw [bindWith_eq_missing_iff,
      Strategy.findGetters_eq_error_iff expression.pairwise_identifiers]
  · rw [bindWith_eq_types_iff, ← Strategy.exists_findGetters_iff]
    constructor
    · rintro ⟨accessors, found, refused⟩
      exact ⟨⟨accessors, found⟩, (checked found).symm.trans refused⟩
    · rintro ⟨⟨accessors, found⟩, refused⟩
      exact ⟨accessors, found, (checked found).trans refused⟩
  · simp only [bindWith_eq_ok_iff]
    rw [← Strategy.exists_findGetters_iff]
    constructor
    · rintro ⟨_, accessors, found, passed, -⟩
      exact ⟨⟨accessors, found⟩, (checked found).symm.trans passed⟩
    · rintro ⟨⟨accessors, found⟩, passed⟩
      exact ⟨_, accessors, found, (checked found).trans passed, rfl⟩
  · obtain ⟨accessors, found, -, rfl⟩ := bindWith_eq_ok_iff.1 isBound
    obtain ⟨keys, lookups⟩ := Strategy.lookup_of_findGetters found
    rw [keys]
    exact ⟨rfl, rfl, expression.pairwise_identifiers, fun _ => Iff.rfl, lookups⟩

/-- A comparison of a zip code with a nickname, neither of which persons have, fails for the
nickname, also if the resolver was asked for the zip code before. -/
theorem BoundQuery.bind_complete_nickname :
    ∃ expression,
      (Builder.after [(.property "zip", []), (.property "nickname", []),
        (.compare .eq, [0, 1])]).build 2 = .ok expression ∧
      (bind (Session.after Strategy.standard
          [.getter Person.descriptor "age", .getter Person.descriptor "zip"]).resolver
        Person.descriptor expression).2 =
          .error (.missing ⟨.getter, "Person", "nickname"⟩) := by
  let steps : List Builder.Request :=
    [(.property "zip", []), (.property "nickname", []), (.compare .eq, [0, 1])]
  let requests : List (Request Staff) :=
    [.getter Person.descriptor "age", .getter Person.descriptor "zip"]
  obtain ⟨expression, built, names⟩ : ∃ expression, (Builder.after steps).build 2 =
      .ok expression ∧ expression.identifiers = ["nickname", "zip"] := ⟨_, rfl, rfl⟩
  let asked : List (Request Staff) :=
    requests ++ expression.identifiers.map (Request.getter Person.descriptor)
  have coherent : Session.Coherent asked := by
    have about : asked.filterMap Request.descriptor? =
        List.replicate 4 ⟨.person, Person.descriptor⟩ := by
      dsimp only [asked]
      rw [names]
      rfl
    intro first member second member' _ _ _
    rw [about] at member member'
    rw [List.eq_of_mem_replicate member, List.eq_of_mem_replicate member']
  have mentioned (name : String) : expression.term.Mentions name ↔ name ∈ ["nickname", "zip"] := by
    rw [← names]
    exact (Expression.mem_identifiers_iff_mentions built).symm
  refine ⟨expression, built, ((bind_complete built coherent).2.1 _).2
    ⟨"nickname", (mentioned _).2 List.mem_cons_self, rfl, fun other mentions _ => ?_, rfl⟩⟩
  have listed := (mentioned other).1 mentions
  simp only [List.mem_cons, List.not_mem_nil, or_false] at listed
  rcases listed with rfl | rfl
  · exact le_refl _
  · decide

end Sift
