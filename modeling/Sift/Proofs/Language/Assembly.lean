import Sift.Proofs.Language.Progress
import Sift.Proofs.Language.Steps

/-!
# Building while reading

The parser builds nodes while it goes along its grammar, and hands on their positions.  That is
right only if every rule uses each position it gets exactly once: one that is dropped would leave a
node without a parent, and one that is used twice would be refused.  What every rule keeps to is
that it goes in step with the descent that reads terms (`InStep`).  The two fail with the same
error, or the descent gives a term and the parser has laid out just this term, as it would be laid
out at once (`Builds`).  So the parser builds what comes of laying out the term of the tokens
(`Parser.parseExpression_eq`).
-/

set_option autoImplicit false

open Sift.Parser (Stream State Parsing current_bind advance_bind skipNegation_bind)

namespace Sift

/-! ## Computations in step -/

section Computations

variable {ε σ α α' β β' : Type}

/-- Two computations, of which the second goes from state to state.  They fail with the same error,
or both have results, which are related. -/
inductive InStep (related : α → β → σ → Prop) : Except ε α → EStateM.Result ε σ β → Prop
  | ok {value : α} {value' : β} {state : σ} (isRelated : related value value' state) :
      InStep related (.ok value) (.ok value' state)
  | error (error : ε) (state : σ) : InStep related (.error error) (.error error state)

namespace InStep

variable {related : α → β → σ → Prop} {first : Except ε α}

theorem bind {related' : α' → β' → σ → Prop} {build : EStateM ε σ β} {state : σ}
    {next : α → Except ε α'} {next' : β → EStateM ε σ β'}
    (inStep : InStep related first (build state))
    (goesOn : ∀ value value' state', related value value' state' →
      InStep related' (next value) (next' value' state')) :
    InStep related' (first.bind next) ((build >>= next') state) := by
  show InStep related' (first.bind next) (EStateM.bind build next' state)
  unfold EStateM.bind
  generalize build state = built at inStep
  cases inStep with
  | ok isRelated => exact goesOn _ _ _ isRelated
  | error error state => exact .error error state

/-- The first of them may go on by itself. -/
theorem mapLeft {related' : α' → β → σ → Prop} {second : EStateM.Result ε σ β} {f : α → α'}
    (inStep : InStep related first second)
    (keeps : ∀ value value' state, related value value' state → related' (f value) value' state) :
    InStep related' (first.map f) second := by
  cases inStep with
  | ok isRelated => exact .ok (keeps _ _ _ isRelated)
  | error error state => exact .error error state

end InStep

end Computations

/-! ## What is laid out -/

/-- A term with its own depth, for which every builder has room. -/
structure Grown.Right (grown : Grown) : Prop where
  same : grown.term.grown = grown
  proper : grown.term.Proper
  small : grown.term.depth ≤ maxDepth

theorem Grown.map_grown_term {growns : List Grown} (right : ∀ grown ∈ growns, grown.Right) :
    (growns.map Grown.term).map Term.grown = growns := by
  rw [List.map_map]
  exact (List.map_congr_left fun grown member => (right grown member).same).trans
    (List.map_id growns)

namespace Builder

/-- Terms were laid out in a builder, one after the other, and these are the positions of their
roots. -/
structure Laid (builder builder' : Builder) (growns : List Grown) (ids : List Nat) : Prop where
  right : ∀ grown ∈ growns, grown.Right
  inserted : insertAll (growns.map Grown.term) builder = .ok ids builder'

theorem Laid.nil (builder : Builder) : Laid builder builder [] [] :=
  ⟨nofun, rfl⟩

/-- Terms are laid out one after the other. -/
theorem insertAll_append {builder builder₁ builder₂ : Builder} {terms terms' : List Term}
    {ids ids' : List Nat} (first : insertAll terms builder = .ok ids builder₁)
    (rest : insertAll terms' builder₁ = .ok ids' builder₂) :
    insertAll (terms ++ terms') builder = .ok (ids ++ ids') builder₂ := by
  induction terms generalizing builder ids with
  | nil =>
    obtain ⟨rfl, rfl⟩ := insertAll_nil_eq_ok_iff.1 first
    exact rest
  | cons term others ih =>
    obtain ⟨id, builder', idsRest, inserted, insertedRest, rfl⟩ :=
      insertAll_cons_eq_ok_iff.1 first
    exact insertAll_cons_eq_ok_iff.2 ⟨id, builder', _, inserted, ih insertedRest, rfl⟩

/-- Some terms and then others. -/
theorem Laid.append {builder builder₁ builder₂ : Builder} {growns growns' : List Grown}
    {ids ids' : List Nat} (first : Laid builder builder₁ growns ids)
    (rest : Laid builder₁ builder₂ growns' ids') :
    Laid builder builder₂ (growns ++ growns') (ids ++ ids') := by
  refine ⟨fun grown member => ?_, ?_⟩
  · exact (List.mem_append.1 member).elim (first.right grown) (rest.right grown)
  · rw [List.map_append]
    exact insertAll_append first.inserted rest.inserted

/-- One term by itself. -/
theorem Laid.root {builder builder' : Builder} {grown : Grown} {id : Nat}
    (laid : Laid builder builder' [grown] [id]) :
    insert grown.term builder = .ok id builder' := by
  obtain ⟨_, _, _, inserted, insertedRest, same⟩ := insertAll_cons_eq_ok_iff.1 laid.inserted
  obtain ⟨rfl, rfl⟩ := insertAll_nil_eq_ok_iff.1 insertedRest
  obtain ⟨rfl, -⟩ := List.cons.inj same
  exact inserted

/-- What was laid out can be found again: the roots are free to become operands. -/
theorem Laid.operands {builder builder' : Builder} {growns : List Grown} {ids : List Nat}
    (laid : Laid builder builder' growns ids) : builder'.operands ids [] = .ok growns := by
  obtain ⟨right, inserted⟩ := laid
  have each : ∀ term ∈ growns.map Grown.term, ∀ builder : Builder, ∃ id builder',
      insert term builder = .ok id builder' ∧ Inserted builder builder' [term] [id] := by
    intro term member builder
    obtain ⟨grown, isGrown, rfl⟩ := List.mem_map.1 member
    exact insert_inserted (right grown isGrown).proper (right grown isGrown).small builder
  obtain ⟨ids', builder'', inserted', laid⟩ := insertAll_inserted builder each
  cases inserted.symm.trans inserted'
  refine operands_eq_ok_iff.2 ⟨laid.nodup, fun _ _ => List.not_mem_nil, ?_⟩
  rw [← Grown.map_grown_term right]
  exact laid.free

/-- **A node over terms that were laid out.**  It is refused just if its term cannot grow, and else
the whole term is laid out. -/
theorem Laid.node {builder builder₁ : Builder} {growns : List Grown} {ids : List Nat}
    (laid : Laid builder builder₁ growns ids) {kind : NodeKind} {term : Term}
    (made : kind.term? (growns.map Grown.term) = some term) :
    (∀ error, Grown.node kind growns = .error error →
      Builder.node kind ids builder₁ = .error error builder₁) ∧
      ∀ grown, Grown.node kind growns = .ok grown → ∃ id builder₂,
        Builder.node kind ids builder₁ = .ok id builder₂ ∧ Laid builder builder₂ [grown] [id] := by
  obtain ⟨rfl, areOperands⟩ := Term.term?_eq_some made
  have found := laid.operands
  obtain ⟨nodup, -, free⟩ := operands_eq_ok_iff.1 found
  have fits : term.kind.arity.accepts term.operands.length = true := by
    rw [areOperands, ← NodeKind.isSome_term?, made, Option.isSome_some]
  have fitsIds : term.kind.arity.accepts ids.length = true := by
    rwa [free.length_eq, ← List.length_map Grown.term, ← areOperands]
  refine ⟨fun error refused => node_eq_error_iff.2 ⟨rfl, .inr ⟨checkCount_eq_ok_iff.2 fitsIds,
    .inr ⟨growns, found, refused⟩⟩⟩, fun grown grew => ?_⟩
  have added := node_eq_ok_iff.2 ⟨fitsIds, nodup, growns, grown, free, grew, rfl, rfl⟩
  have proper : term.Proper := by
    refine .node fits fun operand member => ?_
    obtain ⟨grown, isGrown, rfl⟩ := List.mem_map.1 (areOperands ▸ member)
    exact (laid.right grown isGrown).proper
  obtain ⟨rfl, small⟩ : grown = term.grown ∧ term.depth ≤ maxDepth := by
    rwa [← Grown.node_eq_ok_iff_grown made, Grown.map_grown_term laid.right]
  refine ⟨_, _, added, fun grown member => ?_, ?_⟩
  · obtain rfl := List.mem_singleton.1 member
    exact ⟨rfl, proper, small⟩
  · refine insertAll_cons_eq_ok_iff.2 ⟨_, _, [], ?_, insertAll_nil_eq_ok_iff.2 ⟨rfl, rfl⟩, rfl⟩
    show insert term builder = _
    rw [insert_eq]
    exact run_bind_eq_ok_iff.2 ⟨ids, builder₁, areOperands ▸ laid.inserted, added⟩

end Builder

/-! ## Rules in step -/

/-- A term was read, and the parser has laid it out.  No more levels are open than before. -/
structure Built (start : Builder) (depth : Nat) (read : Grown × Stream) (id : Nat)
    (state : State) : Prop where
  stream : state.stream = read.2
  depth : state.depth = depth
  laid : start.Laid state.builder [read.1] [id]

/-- Terms were read, at least one, and the parser has laid them out. -/
structure BuiltAll (start : Builder) (depth : Nat) (read : List Grown × Stream) (ids : List Nat)
    (state : State) : Prop where
  stream : state.stream = read.2
  depth : state.depth = depth
  laid : start.Laid state.builder read.1 ids
  nonempty : read.1 ≠ []

/-- **A rule of the parser in step with the descent**, when so many levels are open.  It builds the
term that the other reads. -/
def Builds (depth : Nat) (read : Descent.Rule) (build : Parser.Rule) : Prop :=
  ∀ state : State, state.depth = depth →
    InStep (Built state.builder depth) (read state.stream) (build state)

/-- A list in step with the descent. -/
def BuildsAll (depth : Nat) (read : Stream → Except ParseError (List Grown × Stream))
    (build : Parsing (List Nat)) : Prop :=
  ∀ state : State, state.depth = depth →
    InStep (BuiltAll state.builder depth) (read state.stream) (build state)

section Nodes

variable {start : Builder} (state : State) {growns : List Grown} {ids : List Nat}
  (laid : start.Laid state.builder growns ids) {kind : NodeKind}
  (made : (kind.term? (growns.map Grown.term)).isSome = true)
include laid made

/-- A node over what was laid out before. -/
theorem inStep_grow : InStep (fun grown => Built start state.depth (grown, state.stream))
    (Descent.grow kind growns) (Parser.node kind ids state) := by
  obtain ⟨term, made⟩ := Option.isSome_iff_exists.1 made
  obtain ⟨refuses, grows⟩ := laid.node made
  unfold Descent.grow Parser.node
  cases grew : Grown.node kind growns with
  | error error =>
    rw [refuses error grew]
    exact .error _ _
  | ok grown =>
    obtain ⟨id, builder, built, laid⟩ := grows grown grew
    rw [built]
    exact .ok ⟨rfl, rfl, laid⟩

theorem inStep_finish : InStep (Built start state.depth) (Descent.finish kind growns state.stream)
    (Parser.node kind ids state) :=
  (inStep_grow state laid made).mapLeft fun _ _ _ => id

end Nodes

/-- A token that is expected.  The nodes stay as they are. -/
theorem inStep_expect (accept : Stream → Except ParseError Stream) (state : State) :
    InStep (fun next _ state' => state' = { state with stream := next }) (accept state.stream)
      (Parser.expect accept state) := by
  unfold Parser.expect
  cases accept state.stream with
  | error error => exact .error _ _
  | ok next => exact .ok rfl

theorem inStep_number (text : String) (state : State) :
    InStep (fun grown => Built state.builder state.depth (grown, state.stream))
      (Descent.numberLiteral text) (Parser.number text state) := by
  unfold Descent.numberLiteral Parser.number
  cases Parser.numeral? text with
  | none => exact .error _ _
  | some number => exact inStep_grow state (.nil state.builder) rfl

theorem inStep_pattern [Engine] (pattern : Pattern) (state : State) :
    InStep (fun grown => Built state.builder state.depth (grown, state.stream))
      (Descent.patternLiteral pattern) (Parser.pattern pattern state) := by
  unfold Descent.patternLiteral Parser.pattern
  cases pattern.compile with
  | error message => exact .error _ _
  | ok test => exact inStep_grow state (.nil state.builder) rfl

/-- An escape clause.  The nodes stay as they are. -/
theorem inStep_escapeClause (state : State) :
    InStep (fun found escape state' => escape = found.1 ∧ state' = { state with stream := found.2 })
      (Descent.escapeClause state.stream) (Parser.escapeClause state) := by
  unfold Descent.escapeClause Parser.escapeClause
  rw [current_bind]
  split_ifs
  · rw [advance_bind, current_bind, State.advance_stream]
    rcases state.stream.advance.rest.head? with _ | _ | _ | text | _ | _
    case some.string =>
      dsimp only
      rw [advance_bind]
      rcases text.toList with _ | ⟨c, _ | ⟨d, more⟩⟩
      · exact .error _ _
      · exact .ok ⟨rfl, rfl⟩
      · exact .error _ _
    all_goals exact .error _ _
  · exact .ok ⟨rfl, rfl⟩

/-- A test that may be negated. -/
theorem inStep_negateIf {start : Builder} {depth : Nat} {read : Except ParseError (Grown × Stream)}
    {build : Parser.Rule} {state : State}
    (inStep : InStep (Built start depth) read (build state)) (negated : Bool) :
    InStep (Built start depth) (Descent.negateIf negated read)
      ((build >>= fun test => Parser.negateIf negated test) state) := by
  cases negated with
  | false =>
    have unchanged : read.bind Except.ok = read := by cases read <;> rfl
    show InStep _ read _
    rw [← unchanged]
    exact inStep.bind fun _ _ _ => .ok
  | true =>
    refine inStep.bind fun ⟨grown, next⟩ id state built => ?_
    obtain ⟨rfl, rfl, laid⟩ := built
    exact inStep_finish _ laid rfl

/-! ## Chains and lists -/

/-- One operator of a chain and then the others. -/
theorem descent_chainFrom_eq {read : Descent.Rule} {operator? : Token → Option NodeKind}
    {kind : NodeKind} {stream : Stream} (isOperator : stream.rest.head?.bind operator? = some kind)
    (left : Grown) :
    Descent.chainFrom read operator? left stream =
      ((read stream.advance).bind fun (right, next) =>
        Descent.finish kind [left, right] next).bind fun (node, next) =>
          if next.rest.length < stream.rest.length then
            Descent.chainFrom read operator? node next
          else .ok (node, next) := by
  rw [Descent.chainFrom, isOperator]
  rcases read stream.advance with error | ⟨right, next⟩
  · rfl
  · show _ = ((Descent.grow kind [left, right]).map (·, next)).bind _
    dsimp only
    cases Descent.grow kind [left, right] <;> rfl

section Chains

variable {category : Grammar.Category} {operator? : Token → Option NodeKind}
  (operators : Grammar.Operators category operator?) {depth : Nat} {read : Descent.Rule}
  {build : Parser.Rule} (builds : Builds depth read build)
include operators builds

theorem inStep_link {kind : NodeKind} {state : State} (deep : state.depth = depth)
    (isOperator : state.stream.rest.head?.bind operator? = some kind) {start : Builder}
    {left : Grown} {id : Nat} (laid : start.Laid state.builder [left] [id]) :
    InStep (Built start depth)
      ((read state.stream.advance).bind fun (right, next) =>
        Descent.finish kind [left, right] next)
      (Parser.link build kind id state) := by
  obtain ⟨token, _, known⟩ := Option.bind_eq_some_iff.1 isOperator
  obtain ⟨make, _, made⟩ := operators known
  unfold Parser.link
  rw [advance_bind]
  refine (builds state.advance deep).bind ?_
  rintro ⟨right, _⟩ id' state' ⟨rfl, rfl, laid'⟩
  exact inStep_finish _ (laid.append laid') (Option.isSome_iff_exists.2 ⟨_, made ..⟩)

theorem inStep_chainFrom {start : Builder} {left : Grown} {id : Nat} {state : State}
    (deep : state.depth = depth) (laid : start.Laid state.builder [left] [id]) :
    InStep (Built start depth) (Descent.chainFrom read operator? left state.stream)
      (Parser.chainFrom build operator? id state) := by
  induction length : state.stream.rest.length using Nat.strongRecOn
    generalizing left id state with
  | ind length ih =>
    subst length
    cases isOperator : state.stream.rest.head?.bind operator? with
    | none =>
      rw [Descent.chainFrom, Parser.chainFrom, isOperator]
      exact .ok ⟨rfl, deep, laid⟩
    | some kind =>
      rw [descent_chainFrom_eq isOperator, Parser.chainFrom_of_operator isOperator]
      refine (inStep_link operators builds deep isOperator laid).bind ?_
      rintro ⟨node, _⟩ id' state' ⟨rfl, deep', laid'⟩
      dsimp only
      split_ifs with shorter
      · exact ih _ shorter deep' laid' rfl
      · exact .ok ⟨rfl, deep', laid'⟩

theorem builds_chain :
    Builds depth (Descent.chain read operator?) (Parser.chain build operator?) := by
  intro state deep
  refine (builds state deep).bind ?_
  rintro ⟨left, _⟩ id state' ⟨rfl, deep', laid⟩
  exact inStep_chainFrom operators builds deep' laid

end Chains

section Lists

variable {depth : Nat} {read : Descent.Rule} {build : Parser.Rule}
  (builds : Builds depth read build)

/-- One item and then the others. -/
theorem descent_items_eq (read : Descent.Rule) (stream : Stream) :
    Descent.items read stream = (read stream).bind fun (first, next) =>
      if next.rest.head? = some (.symbol .comma) ∧
          next.advance.rest.length < stream.rest.length then
        (Descent.items read next.advance).bind fun (rest, behind) => .ok (first :: rest, behind)
      else .ok ([first], next) := by
  rw [Descent.items]
  cases read stream <;> rfl

include builds

theorem inStep_items : BuildsAll depth (Descent.items read) (Parser.items build) := by
  intro state deep
  induction length : state.stream.rest.length using Nat.strongRecOn generalizing state with
  | ind length ih =>
    subst length
    rw [descent_items_eq, Parser.items_of_item]
    refine (builds state deep).bind ?_
    rintro ⟨first, _⟩ id state' ⟨rfl, deep', laid⟩
    dsimp only
    split_ifs with more
    · refine (ih _ more.2 state'.advance deep' rfl).bind ?_
      rintro ⟨rest, _⟩ ids state'' ⟨rfl, deep'', laid', _⟩
      exact .ok ⟨rfl, deep'', laid.append laid', List.cons_ne_nil _ _⟩
    · exact .ok ⟨rfl, deep', laid, List.cons_ne_nil _ _⟩

theorem builds_listInParens :
    BuildsAll depth (Descent.listInParens read) (Parser.listInParens build) := by
  intro state deep
  refine (inStep_expect (·.expectSymbol .leftParen) state).bind ?_
  rintro stream _ _ rfl
  refine (inStep_items builds { state with stream } deep).bind ?_
  rintro ⟨growns, _⟩ ids state' ⟨rfl, deep', laid, nonempty⟩
  refine (inStep_expect (·.expectSymbol .rightParen) state').bind ?_
  rintro stream _ _ rfl
  exact .ok ⟨rfl, deep', laid, nonempty⟩

end Lists

/-! ## The rules of one level -/

/-- The rules that open a new level go in step. -/
structure BuildsBelow (depth : Nat) (read : Descent.Nested) (build : Parser.Nested) : Prop where
  disjunction : Builds depth read.disjunction build.disjunction
  negation : Builds depth read.negation build.negation
  factor : Builds depth read.factor build.factor

section Level

variable {depth : Nat} {read : Descent.Nested} {build : Parser.Nested}
  (below : BuildsBelow depth read build)
include below

theorem builds_primary : Builds depth (Descent.primary read) (Parser.primary build) := by
  intro state deep
  unfold Descent.primary Parser.primary
  rw [current_bind]
  subst deep
  rcases state.stream.rest.head? with _ | name | text | text | word | mark
  · exact .error _ _
  · exact inStep_finish state.advance (.nil state.builder) rfl
  · exact (inStep_number text state.advance).mapLeft fun _ _ _ => id
  · exact inStep_finish state.advance (.nil state.builder) rfl
  · cases word with
    | true | false => exact inStep_finish state.advance (.nil state.builder) rfl
    | any =>
      refine (builds_listInParens below.disjunction state.advance rfl).bind ?_
      rintro ⟨growns, _⟩ ids state' ⟨rfl, deep, laid, nonempty⟩
      obtain ⟨grown, rest, rfl⟩ := List.exists_cons_of_ne_nil nonempty
      exact deep ▸ inStep_finish _ laid rfl
    | _ => exact .error _ _
  · cases mark with
    | leftParen =>
      refine (below.disjunction state.advance rfl).bind ?_
      rintro ⟨grown, _⟩ id state' ⟨rfl, deep, laid⟩
      refine (inStep_expect (·.expectSymbol .rightParen) state').bind ?_
      rintro stream _ _ rfl
      exact .ok ⟨rfl, deep, laid⟩
    | _ => exact .error _ _

theorem builds_factor : Builds depth (Descent.factor read) (Parser.factor build) := by
  intro state deep
  have primary := builds_primary below state deep
  unfold Descent.factor Parser.factor
  rw [current_bind]
  rcases state.stream.rest.head? with _ | _ | _ | _ | _ | mark
  case some.symbol =>
    cases mark with
    | plus => exact below.factor state.advance deep
    | minus =>
      dsimp only
      rw [advance_bind, current_bind, State.advance_stream]
      have negate : InStep (Built state.builder depth)
          ((read.factor state.stream.advance).bind fun (operand, next) =>
            Descent.finish .negate [operand] next)
          ((build.factor >>= fun operand => Parser.node .negate [operand]) state.advance) := by
        refine (below.factor state.advance deep).bind ?_
        rintro ⟨grown, _⟩ id state' ⟨rfl, rfl, laid⟩
        exact inStep_finish _ laid rfl
      rcases state.stream.advance.rest.head? with _ | _ | text | _ | _ | _
      case some.number =>
        subst deep
        exact (inStep_number ("-" ++ text) state.advance.advance).mapLeft fun _ _ _ => id
      all_goals exact negate
    | _ => exact primary
  all_goals exact primary

theorem builds_sum : Builds depth (Descent.sum read) (Parser.sum build) :=
  builds_chain Grammar.operators_sum
    (builds_chain Grammar.operators_product (builds_factor below))

/-! ## Tests -/

omit below in
theorem inStep_truthTest {start : Builder} {left : Grown} {id : Nat} (state : State)
    (deep : state.depth = depth) (laid : start.Laid state.builder [left] [id]) (negated : Bool) :
    InStep (Built start depth) (Descent.truthTest left negated state.stream)
      (Parser.truthTest id negated state) := by
  subst deep
  have against (b : Bool) : InStep (Built start state.depth)
      ((Descent.grow (.literal (.boolean b)) []).bind fun literal =>
        Descent.finish (.compare (if negated then .ne else .eq)) [left, literal]
          state.stream.advance)
      ((Parser.node (.literal (.boolean b)) [] >>= fun literal =>
        Parser.node (.compare (if negated then .ne else .eq)) [id, literal]) state.advance) := by
    refine (inStep_grow state.advance (.nil state.builder) rfl).bind ?_
    rintro literal id' state' ⟨same, deep, laid'⟩
    have same : state'.stream = state.stream.advance := same
    have deep : state'.depth = state.depth := deep
    rw [← same, ← deep]
    exact inStep_finish _ (laid.append laid') rfl
  unfold Descent.truthTest Parser.truthTest
  extract_lets
  rw [current_bind]
  rcases state.stream.rest.head? with _ | _ | _ | _ | word | _
  case some.keyword =>
    cases word with
    | null => exact inStep_negateIf (inStep_finish state.advance laid rfl) negated
    | true => exact against true
    | false => exact against false
    | _ => exact .error _ _
  all_goals exact .error _ _

theorem inStep_between {start : Builder} {value : Grown} {id : Nat} (state : State)
    (deep : state.depth = depth) (laid : start.Laid state.builder [value] [id]) :
    InStep (Built start depth) (Descent.between read value state.stream)
      (Parser.between build id state) := by
  refine (builds_sum below state deep).bind ?_
  rintro ⟨low, _⟩ lowId state' ⟨rfl, deep', laidLow⟩
  refine (inStep_expect (·.expectKeyword .and) state').bind ?_
  rintro stream _ _ rfl
  refine (builds_sum below { state' with stream } deep').bind ?_
  rintro ⟨high, _⟩ highId state'' ⟨rfl, rfl, laidHigh⟩
  exact inStep_finish _ ((laid.append laidLow).append laidHigh) rfl

theorem inStep_inList {start : Builder} {value : Grown} {id : Nat} (state : State)
    (deep : state.depth = depth) (laid : start.Laid state.builder [value] [id]) :
    InStep (Built start depth)
      ((Descent.listInParens read.disjunction state.stream).bind fun (operands, stream) =>
        Descent.finish .inList (value :: operands) stream)
      (Parser.inList build id state) := by
  refine (builds_listInParens below.disjunction state deep).bind ?_
  rintro ⟨growns, _⟩ ids state' ⟨rfl, rfl, laid', _⟩
  exact inStep_finish _ (laid.append laid') rfl

theorem inStep_compare (operator : Comparison) {start : Builder} {left : Grown} {id : Nat}
    (state : State) (deep : state.depth = depth) (laid : start.Laid state.builder [left] [id]) :
    InStep (Built start depth)
      ((Descent.sum read state.stream).bind fun (right, stream) =>
        Descent.finish (.compare operator) [left, right] stream)
      (Parser.compare build operator id state) := by
  refine (builds_sum below state deep).bind ?_
  rintro ⟨right, _⟩ id' state' ⟨rfl, rfl, laid'⟩
  exact inStep_finish _ (laid.append laid') rfl

variable [Engine]

theorem builds_likePattern :
    Builds depth (Descent.likePattern read) (Parser.likePattern build) := by
  intro state deep
  have sum := builds_sum below state deep
  unfold Descent.likePattern Parser.likePattern
  rw [current_bind]
  rcases state.stream.rest.head? with _ | _ | _ | text | _ | _
  case some.string =>
    subst deep
    refine (inStep_escapeClause state.advance).bind ?_
    rintro ⟨escape, stream⟩ _ _ ⟨rfl, rfl⟩
    exact (inStep_pattern _ { state.advance with stream }).mapLeft fun _ _ _ => id
  all_goals exact sum

theorem inStep_like {start : Builder} {subject : Grown} {id : Nat} (state : State)
    (deep : state.depth = depth) (laid : start.Laid state.builder [subject] [id]) :
    InStep (Built start depth)
      ((Descent.likePattern read state.stream).bind fun (pattern, stream) =>
        Descent.finish .like [subject, pattern] stream)
      (Parser.like build id state) := by
  refine (builds_likePattern below state deep).bind ?_
  rintro ⟨pattern, _⟩ id' state' ⟨rfl, rfl, laid'⟩
  exact inStep_finish _ (laid.append laid') rfl

theorem inStep_testOf {start : Builder} {left : Grown} {id : Nat} (state : State)
    (deep : state.depth = depth) (laid : start.Laid state.builder [left] [id]) :
    InStep (Built start depth) (Descent.testOf read left state.stream)
      (Parser.testOf build id state) := by
  have alone : InStep (Built start depth)
      (.ok (left, state.stream) : Except ParseError (Grown × Stream)) (.ok id state) :=
    .ok ⟨rfl, deep, laid⟩
  unfold Descent.testOf Parser.testOf
  rw [skipNegation_bind]
  simp only [current_bind]
  unfold Parser.Stream.negatesTest
  by_cases first : state.stream.rest.head? = some (.keyword .not)
  · -- a test that can be negated comes next, or this one ends here
    rw [first]
    simp only [beq_self_eq_true, if_true, Bool.true_and, State.advance_stream]
    rcases state.stream.advance.rest.head? with _ | _ | _ | _ | word | _
    case some.keyword =>
      cases word with
      | between =>
        exact inStep_negateIf (inStep_between below state.advance.advance deep laid) true
      | inList =>
        exact inStep_negateIf (inStep_inList below state.advance.advance deep laid) true
      | like =>
        exact inStep_negateIf (inStep_like below state.advance.advance deep laid) true
      | _ => exact alone
    all_goals exact alone
  · have positive : (state.stream.rest.head? == some (.keyword .not)) = false :=
      beq_false_of_ne first
    simp only [positive, Bool.false_and, Bool.false_eq_true, if_false]
    rcases state.stream.rest.head? with _ | _ | _ | _ | word | mark
    case some.keyword =>
      cases word with
      | between =>
        exact inStep_negateIf (inStep_between below state.advance deep laid) false
      | inList =>
        exact inStep_negateIf (inStep_inList below state.advance deep laid) false
      | like =>
        exact inStep_negateIf (inStep_like below state.advance deep laid) false
      | _ => exact alone
    case some.symbol =>
      cases mark with
      | equal | notEqual | less | greater | lessEqual | greaterEqual =>
        exact inStep_negateIf (inStep_compare below _ state.advance deep laid) false
      | _ => exact alone
    all_goals exact alone

theorem builds_test : Builds depth (Descent.test read) (Parser.test build) := by
  intro state deep
  refine (builds_sum below state deep).bind ?_
  rintro ⟨left, _⟩ id state' ⟨rfl, deep', laid⟩
  dsimp only
  rw [current_bind]
  split_ifs with isTest negated
  · rw [advance_bind, current_bind, State.advance_stream, if_pos negated]
    exact inStep_truthTest state'.advance.advance deep' laid true
  · rw [advance_bind, current_bind, State.advance_stream, if_neg negated]
    exact inStep_truthTest state'.advance deep' laid false
  · exact inStep_testOf below state' deep' laid

theorem builds_negation : Builds depth (Descent.negation read) (Parser.negation build) := by
  intro state deep
  unfold Descent.negation Parser.negation
  rw [current_bind]
  split_ifs with negated
  · refine (below.negation state.advance deep).bind ?_
    rintro ⟨operand, _⟩ id state' ⟨rfl, rfl, laid⟩
    exact inStep_finish _ laid rfl
  · exact builds_test below state deep

theorem builds_disjunction :
    Builds depth (Descent.disjunction read) (Parser.disjunction build) :=
  builds_chain Grammar.operators_disjunction
    (builds_chain Grammar.operators_conjunction (builds_negation below))

end Level

/-! ## All levels -/

/-- A rule one level deeper, where there is room for another level. -/
theorem builds_deeper {depth : Nat} {read : Descent.Rule} {build : Parser.Rule}
    (builds : Builds (depth + 1) read build) (room : depth < maxDepth) :
    Builds depth read (Parser.deeper build) := by
  rintro state rfl
  have inStep := builds { state with depth := state.depth + 1, shallow := room } rfl
  unfold Parser.deeper
  rw [dif_pos room]
  dsimp only at inStep ⊢
  generalize build { state with depth := state.depth + 1, shallow := room } = built at inStep ⊢
  generalize read state.stream = found at inStep ⊢
  cases inStep with
  | error error state' => exact .error _ _
  | ok built =>
    obtain ⟨same, deep, laid⟩ := built
    exact .ok ⟨same, Nat.sub_eq_of_eq_add deep, laid⟩

variable [Engine]

/-- Where so many more levels may be opened, the parser goes in step with the descent through so
many levels, however many more it tells apart. -/
theorem builds_nested {levels depth room : Nat} (enough : room < levels)
    (limit : depth + room = maxDepth) :
    BuildsBelow depth (Descent.nested room) (Parser.nested levels) := by
  induction levels generalizing depth room with
  | zero => cases enough
  | succ levels ih =>
    cases room with
    | zero =>
      have refuses (build : Parser.Rule) :
          Builds depth (fun _ => .error .tooDeep) (Parser.deeper build) := by
        rintro state rfl
        unfold Parser.deeper
        rw [dif_neg (by omega)]
        exact .error _ _
      exact ⟨refuses _, refuses _, refuses _⟩
    | succ room =>
      have below : BuildsBelow (depth + 1) (Descent.nested room) (Parser.nested levels) :=
        ih (Nat.lt_of_succ_lt_succ enough) (by omega)
      have deeper {read : Descent.Rule} {build : Parser.Rule}
          (builds : Builds (depth + 1) read build) : Builds depth read (Parser.deeper build) :=
        builds_deeper builds (by omega)
      exact ⟨deeper (builds_disjunction below), deeper (builds_negation below),
        deeper (builds_factor below)⟩

/-- **The parser builds what comes of laying out the term of its tokens.** -/
theorem Parser.parseExpression_eq (tokens : List Token) :
    Parser.parseExpression tokens =
      (Descent.parseTokens tokens).bind fun term => (Expression.ofTerm term).mapError .build := by
  have below : BuildsBelow 0 (Descent.nested maxDepth) (Parser.nested (maxDepth + 1)) :=
    builds_nested (Nat.lt_succ_self maxDepth) (Nat.zero_add maxDepth)
  have inStep : InStep _ ((Descent.nested maxDepth).disjunction ⟨0, tokens⟩) _ :=
    below.disjunction (.start tokens) rfl
  unfold Parser.parseExpression Descent.parseTokens
  generalize (Descent.nested maxDepth).disjunction ⟨0, tokens⟩ = read at inStep ⊢
  generalize (Parser.nested (maxDepth + 1)).disjunction (.start tokens) = built at inStep ⊢
  cases inStep with
  | error error state => rfl
  | @ok read root state isBuilt =>
    obtain ⟨grown, stream⟩ := read
    obtain ⟨⟨position, rest⟩, depth, shallow, builder⟩ := state
    obtain ⟨rfl, _, laid⟩ := isBuilt
    cases rest with
    | nil =>
      have inserted : Builder.insert grown.term .empty = .ok root builder := laid.root
      show _ = (Expression.ofTerm grown.term).mapError _
      rw [Expression.ofTerm, inserted]
    | cons token rest => rfl

end Sift
