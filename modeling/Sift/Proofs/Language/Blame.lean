import Sift.Proofs.Language.Progress

/-!
# Where refused numbers come from

The parser refuses a number for its text, and it only ever looks at the texts of number tokens, as
they are or behind a minus sign.  So a number that is refused can be traced to a token
(`Parser.parseExpression_invalidNumber`).  Two facts are carried along through all rules
(`Parser.Traces`): the tokens that are left are tokens of the text, and if a rule refuses a number
it is one of theirs.
-/

set_option autoImplicit false

namespace Sift.Parser

/-! ## Traces -/

/-- A text that writes no number, though it is that of a number token, as it is or behind a minus
sign. -/
def RefusedNumber (tokens : List Token) (text : String) : Prop :=
  numeral? text = none ∧
    ∃ number, .number number ∈ tokens ∧ (text = number ∨ text = "-" ++ number)

/-- A run that leaves nothing but tokens of the text, or has failed, and not because of a number
that cannot be traced to them. -/
inductive Traced (tokens : List Token) {α : Type} : EStateM.Result ParseError State α → Prop where
  | ok {value : α} {next : State} (left : next.stream.rest ⊆ tokens) :
    Traced tokens (.ok value next)
  | error {error : ParseError} {next : State}
    (number : ∀ text, error = .invalidNumber text → RefusedNumber tokens text) :
    Traced tokens (.error error next)

/-- A part of the parser that can be traced to the tokens. -/
def Traces (tokens : List Token) {α : Type} (part : Parsing α) : Prop :=
  ∀ state : State, state.stream.rest ⊆ tokens → Traced tokens (part state)

section Combinators

variable {tokens : List Token} {α β : Type} {part : Parsing α}

theorem traces_pure (value : α) : Traces tokens (pure value) :=
  fun _ left => .ok left

theorem traces_fail {error : ParseError} (other : ∀ text, error ≠ .invalidNumber text) :
    Traces tokens (fail error : Parsing α) :=
  fun _ _ => .error fun text same => absurd same (other text)

theorem traces_unexpected (expected : Expected) :
    Traces tokens (unexpected expected : Parsing α) :=
  fun _ _ => .error nofun

theorem traces_tooDeep : Traces tokens (fail .tooDeep : Parsing α) :=
  traces_fail nofun

/-- **One part after another.** -/
theorem Traces.bind {rest : α → Parsing β} (first : Traces tokens part)
    (goesOn : ∀ value, Traces tokens (rest value)) : Traces tokens (part >>= rest) := by
  intro state left
  show Traced tokens (EStateM.bind part rest state)
  unfold EStateM.bind
  have traced := first state left
  generalize part state = result at traced
  cases traced with
  | ok left => exact goesOn _ _ left
  | error number => exact .error number

/-! ## Single tokens and nodes -/

/-- A number token that comes next is one of the text. -/
theorem traces_current {next : Option Token → Parsing α}
    (goesOn : ∀ token, (∀ text, token = some (.number text) → .number text ∈ tokens) →
      Traces tokens (next token)) : Traces tokens (current >>= next) :=
  fun state left => goesOn _ (fun _ head => left (List.mem_of_head? head)) state left

theorem rest_advance_subset {stream : Stream} (left : stream.rest ⊆ tokens) :
    stream.advance.rest ⊆ tokens := by
  obtain ⟨position, _ | ⟨token, rest⟩⟩ := stream
  · exact left
  · exact List.subset_of_cons_subset left

theorem traces_advance : Traces tokens advance :=
  fun _ left => .ok (rest_advance_subset left)

theorem traces_node (kind : NodeKind) (children : List Nat) :
    Traces tokens (node kind children) := by
  intro state left
  unfold node
  split
  · exact .ok left
  · exact .error nofun

/-- A number token is refused for its own text. -/
theorem traces_number {number text : String} (member : .number number ∈ tokens)
    (same : text = number ∨ text = "-" ++ number) : Traces tokens (Parser.number text) := by
  unfold Parser.number
  split
  · exact traces_node _ _
  · rename_i refused
    refine fun state _ => .error fun _ isText => ?_
    cases isText
    exact ⟨refused, number, member, same⟩

theorem traces_expectSymbol (symbol : Symbol) : Traces tokens (expectSymbol symbol) := by
  intro state left
  unfold expectSymbol expect Stream.expectSymbol
  dsimp only
  split_ifs
  · exact .ok (rest_advance_subset left)
  · exact traces_unexpected _ state left

theorem traces_expectKeyword (keyword : Keyword) : Traces tokens (expectKeyword keyword) := by
  intro state left
  unfold expectKeyword expect Stream.expectKeyword
  dsimp only
  split_ifs
  · exact .ok (rest_advance_subset left)
  · exact traces_unexpected _ state left

theorem traces_skipNegation : Traces tokens skipNegation := by
  intro state left
  unfold skipNegation
  split_ifs
  · exact .ok (rest_advance_subset left)
  · exact .ok left

theorem traces_negateIf (negated : Bool) (test : Nat) : Traces tokens (negateIf negated test) := by
  cases negated with
  | false => exact traces_pure test
  | true => exact traces_node .not [test]

theorem traces_escapeClause : Traces tokens escapeClause := by
  refine traces_current fun token _ => ?_
  split_ifs
  · refine traces_advance.bind fun _ => traces_current fun token _ => ?_
    split
    · refine traces_advance.bind fun _ => ?_
      split
      · exact traces_pure _
      · exact traces_fail nofun
    · exact traces_unexpected _
  · exact traces_pure none

theorem traces_pattern [Engine] (pattern : Pattern) : Traces tokens (Parser.pattern pattern) := by
  unfold Parser.pattern
  split
  · exact traces_node _ _
  · exact traces_fail nofun

end Combinators

/-! ## Chains and lists -/

section Chains

variable {tokens : List Token} {operand : Rule} {operator? : Token → Option NodeKind}

theorem traces_chainFrom (traces : Traces tokens operand) (left : Nat) :
    Traces tokens (chainFrom operand operator? left) := by
  intro state inside
  induction length : state.stream.rest.length using Nat.strongRecOn generalizing left state with
  | ind length ih =>
    subst length
    cases isOperator : state.stream.rest.head?.bind operator? with
    | none =>
      rw [chainFrom, isOperator]
      exact .ok inside
    | some kind =>
      rw [chainFrom_of_operator isOperator]
      have link : Traces tokens (link operand kind left) :=
        traces_advance.bind fun _ => traces.bind fun right => traces_node kind [left, right]
      refine link.bind (fun node next inside => ?_) state inside
      show Traced tokens (if _ then _ else _)
      split_ifs with shorter
      · exact ih _ shorter node next inside rfl
      · exact .ok inside

theorem traces_chain (traces : Traces tokens operand) : Traces tokens (chain operand operator?) :=
  traces.bind (traces_chainFrom traces)

theorem traces_items (traces : Traces tokens operand) : Traces tokens (items operand) := by
  intro state inside
  induction length : state.stream.rest.length using Nat.strongRecOn generalizing state with
  | ind length ih =>
    subst length
    rw [items_of_item]
    refine traces.bind (fun first next inside => ?_) state inside
    show Traced tokens (if _ then _ else _)
    split_ifs with more
    · have others := ih _ more.2 next.advance (rest_advance_subset inside) rfl
      show Traced tokens (EStateM.bind _ _ next.advance)
      unfold EStateM.bind
      generalize items operand next.advance = result at others
      cases others with
      | ok left => exact .ok left
      | error number => exact .error number
    · exact .ok inside

theorem traces_listInParens (traces : Traces tokens operand) :
    Traces tokens (listInParens operand) :=
  (traces_expectSymbol _).bind fun _ => (traces_items traces).bind fun _ =>
    (traces_expectSymbol _).bind fun _ => traces_pure _

end Chains

/-! ## The rules of one level -/

/-- The rules that open a new level can be traced to the tokens. -/
structure TracesBelow (tokens : List Token) (inner : Nested) : Prop where
  disjunction : Traces tokens inner.disjunction
  negation : Traces tokens inner.negation
  factor : Traces tokens inner.factor

section Level

variable {tokens : List Token} {inner : Nested} (below : TracesBelow tokens inner)
include below

theorem traces_primary : Traces tokens (primary inner) := by
  refine traces_current fun token number => ?_
  split
  case h_1 text =>
    exact traces_advance.bind fun _ => traces_number (number text rfl) (Or.inl rfl)
  case h_2 | h_3 | h_4 | h_5 => exact traces_advance.bind fun _ => traces_node _ _
  case h_6 =>
    exact traces_advance.bind fun _ => (traces_listInParens below.disjunction).bind fun _ =>
      traces_node _ _
  case h_7 =>
    exact traces_advance.bind fun _ => below.disjunction.bind fun _ =>
      (traces_expectSymbol _).bind fun _ => traces_pure _
  case h_8 => exact traces_unexpected _

theorem traces_factor : Traces tokens (factor inner) := by
  refine traces_current fun token _ => ?_
  split
  · exact traces_advance.bind fun _ => below.factor
  · refine traces_advance.bind fun _ => traces_current fun token number => ?_
    split
    case h_1 text =>
      exact traces_advance.bind fun _ => traces_number (number text rfl) (Or.inr rfl)
    case h_2 => exact below.factor.bind fun _ => traces_node _ _
  · exact traces_primary below

theorem traces_sum : Traces tokens (sum inner) :=
  traces_chain (traces_chain (traces_factor below))

omit below in
theorem traces_truthTest (left : Nat) (negated : Bool) :
    Traces tokens (truthTest left negated) := by
  unfold truthTest
  extract_lets against
  have traces_against (b : Bool) : Traces tokens (against b) :=
    traces_advance.bind fun _ => (traces_node _ _).bind fun _ => traces_node _ _
  refine traces_current fun token _ => ?_
  split
  · exact traces_advance.bind fun _ => (traces_node _ _).bind fun _ => traces_negateIf _ _
  · exact traces_against true
  · exact traces_against false
  · exact traces_unexpected _

variable [Engine]

theorem traces_likePattern : Traces tokens (likePattern inner) := by
  refine traces_current fun token _ => ?_
  split
  · exact traces_advance.bind fun _ => traces_escapeClause.bind fun _ => traces_pattern _
  · exact traces_sum below

theorem traces_testOf (left : Nat) : Traces tokens (testOf inner left) := by
  have traces_compare (operator : Comparison) : Traces tokens (compare inner operator left) :=
    (traces_sum below).bind fun _ => traces_node _ _
  refine traces_skipNegation.bind fun negated => traces_current fun token _ => ?_
  have negate (test : Nat) : Traces tokens (negateIf negated test) := traces_negateIf negated test
  split
  · have between : Traces tokens (between inner left) :=
      (traces_sum below).bind fun _ => (traces_expectKeyword _).bind fun _ =>
        (traces_sum below).bind fun _ => traces_node _ _
    exact traces_advance.bind fun _ => between.bind negate
  · have inList : Traces tokens (inList inner left) :=
      (traces_listInParens below.disjunction).bind fun _ => traces_node _ _
    exact traces_advance.bind fun _ => inList.bind negate
  · have like : Traces tokens (like inner left) :=
      (traces_likePattern below).bind fun _ => traces_node _ _
    exact traces_advance.bind fun _ => like.bind negate
  · split
    · exact traces_advance.bind fun _ => (traces_compare _).bind negate
    · exact traces_pure left

theorem traces_test : Traces tokens (test inner) := by
  refine (traces_sum below).bind fun left => traces_current fun token _ => ?_
  split_ifs
  · refine traces_advance.bind fun _ => traces_current fun token _ => ?_
    split_ifs
    · exact traces_advance.bind fun _ => traces_truthTest left true
    · exact traces_truthTest left false
  · exact traces_testOf below left

theorem traces_negation : Traces tokens (negation inner) := by
  refine traces_current fun token _ => ?_
  split_ifs
  · exact traces_advance.bind fun _ => below.negation.bind fun _ => traces_node _ _
  · exact traces_test below

theorem traces_disjunction : Traces tokens (disjunction inner) :=
  traces_chain (traces_chain (traces_negation below))

end Level

/-! ## All levels -/

section Levels

variable {tokens : List Token}

theorem traces_deeper {rule : Rule} (traces : Traces tokens rule) :
    Traces tokens (deeper rule) := by
  intro state inside
  unfold deeper
  split_ifs with room
  · have traced := traces { state with depth := state.depth + 1, shallow := room } inside
    generalize rule { state with depth := state.depth + 1, shallow := room } = result at traced
    cases traced with
    | ok left => exact .ok left
    | error number => exact .error number
  · exact traces_tooDeep state inside

variable [Engine]

theorem traces_nested (levels : Nat) : TracesBelow tokens (nested levels) := by
  induction levels with
  | zero => exact ⟨traces_tooDeep, traces_tooDeep, traces_tooDeep⟩
  | succ levels ih =>
    exact ⟨traces_deeper (traces_disjunction ih), traces_deeper (traces_negation ih),
      traces_deeper (traces_factor ih)⟩

/-- **A number that is refused is one of the text**, as it is or behind a minus sign. -/
theorem parseExpression_invalidNumber {text : String}
    (refused : parseExpression tokens = .error (.invalidNumber text)) :
    RefusedNumber tokens text := by
  have traced := (traces_nested (maxDepth + 1)).disjunction (.start tokens) (List.Subset.refl _)
  unfold parseExpression at refused
  generalize (nested (maxDepth + 1)).disjunction (.start tokens) = result at refused traced
  cases traced with
  | error number => exact number text (Except.error.inj refused)
  | ok left =>
    dsimp only at refused
    split at refused
    · obtain ⟨_, _, same⟩ := mapError_eq_error_iff.1 refused
      cases same
    · cases refused

end Levels

end Sift.Parser
