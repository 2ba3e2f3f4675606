import Sift.Proofs.Language.Grammar

/-!
# Progress

The rules of the parser call each other and go round in loops, and they share one state.  What every
one of them keeps to is that it only goes forward (`Parser.State.Reaches`): the tokens that it has
read stand in front of those that are left, the position has moved past just these, and as many
levels are open as before.  That holds where a rule fails as well.  A rule that succeeds has read at
least one token, and so every loop gets shorter.  That no more levels are open than may be is part
of what a state is.

That a loop gets shorter is checked while it runs, and levels are told apart by a number that is
given in advance.  Neither ever matters: the loops go on exactly as long as there is an operator or
a comma (`Parser.chainFrom_eq`, `Parser.items_eq`), and it is the count of open levels that ends the
descent (`Parser.recursive_eq`).

Each rule is gone through once, for two versions of the rules below it that may differ where more
levels are open (`Parser.Alike`).
-/

set_option autoImplicit false

namespace Sift.Parser

/-! ## Going forward -/

/-- From one place in the tokens to another these have been read. -/
structure Stream.Reads (read : List Token) (stream next : Stream) : Prop where
  rest : stream.rest = read ++ next.rest
  position : next.position = stream.position + read.length

theorem Stream.Reads.refl (stream : Stream) : stream.Reads [] stream :=
  ⟨rfl, rfl⟩

theorem Stream.Reads.trans {read read' : List Token} {stream middle next : Stream}
    (first : stream.Reads read middle) (later : middle.Reads read' next) :
    stream.Reads (read ++ read') next := by
  constructor
  · rw [first.rest, later.rest, List.append_assoc]
  · rw [later.position, first.position, List.length_append, Nat.add_assoc]

/-- The next token can be passed, if there is one. -/
theorem Stream.reads_advance {stream : Stream} {token : Token}
    (head : stream.rest.head? = some token) : stream.Reads [token] stream.advance := by
  obtain ⟨position, rest⟩ := stream
  cases rest with
  | nil => cases head
  | cons first rest =>
    obtain rfl := Option.some.inj head
    exact ⟨rfl, rfl⟩

/-- From one state to another the parser has gone forward: it has read what stands in between, at
least one token if it is to have moved, and as many levels are open as before. -/
structure State.Reaches (moved : Bool) (state next : State) : Prop where
  tokens : ∃ read, state.stream.Reads read next.stream ∧ (moved = true → read ≠ [])
  depth : next.depth = state.depth

namespace State.Reaches

variable {moved again : Bool} {state middle next : State}

theorem refl (state : State) : state.Reaches false state :=
  ⟨⟨[], .refl state.stream, nofun⟩, rfl⟩

theorem weaken (reaches : state.Reaches moved next) : state.Reaches false next := by
  obtain ⟨⟨read, reads, _⟩, depth⟩ := reaches
  exact ⟨⟨read, reads, nofun⟩, depth⟩

theorem trans (first : state.Reaches moved middle) (later : middle.Reaches again next) :
    state.Reaches (moved || again) next := by
  obtain ⟨⟨read, reads, some⟩, depth⟩ := first
  obtain ⟨⟨read', reads', some'⟩, depth'⟩ := later
  refine ⟨⟨read ++ read', reads.trans reads', fun isMoved => ?_⟩, depth'.trans depth⟩
  rcases Bool.or_eq_true_iff.1 isMoved with isMoved | isMoved
  · exact List.append_ne_nil_of_left_ne_nil (some isMoved) _
  · exact List.append_ne_nil_of_right_ne_nil _ (some' isMoved)

theorem shorter (reaches : state.Reaches true next) :
    next.stream.rest.length < state.stream.rest.length := by
  obtain ⟨⟨read, reads, some⟩, _⟩ := reaches
  have := List.length_pos_iff.2 (some rfl)
  rw [reads.rest, List.length_append]
  omega

end State.Reaches

theorem State.reaches_advance {state : State} {token : Token}
    (head : state.stream.rest.head? = some token) : state.Reaches true state.advance :=
  ⟨⟨[token], Stream.reads_advance head, fun _ => List.cons_ne_nil _ _⟩, rfl⟩

/-- A run from a state has ended further on.  Only if it has succeeded it must have moved. -/
inductive Ends {α : Type} (moved : Bool) (state : State) :
    EStateM.Result ParseError State α → Prop where
  | ok {value : α} {next : State} (reaches : state.Reaches moved next) :
    Ends moved state (.ok value next)
  | error {error : ParseError} {next : State} (reaches : state.Reaches false next) :
    Ends moved state (.error error next)

theorem Ends.weaken {α : Type} {moved : Bool} {state : State}
    {result : EStateM.Result ParseError State α} (ends : Ends moved state result) :
    Ends false state result := by
  cases ends with
  | ok reaches => exact .ok reaches.weaken
  | error reaches => exact .error reaches

theorem Ends.after {α : Type} {first later : Bool} {state middle : State}
    {result : EStateM.Result ParseError State α} (reaches : state.Reaches first middle)
    (ends : Ends later middle result) : Ends (first || later) state result := by
  cases ends with
  | ok reaches' => exact .ok (reaches.trans reaches')
  | error reaches' => exact .error (reaches.trans reaches').weaken

/-- Two parts that do the same from a state, and go forward there. -/
def AlikeAt {α : Type} (moved : Bool) (state : State) (part part' : Parsing α) : Prop :=
  part state = part' state ∧ Ends moved state (part state)

/-- Two parts that do the same wherever so many levels are open, and go forward there. -/
def Alike {α : Type} (depth : Nat) (moved : Bool) (part part' : Parsing α) : Prop :=
  ∀ state : State, state.depth = depth → AlikeAt moved state part part'

section Combinators

variable {α β : Type} {depth : Nat} {moved later : Bool} {part part' : Parsing α} {state : State}

/-- A part that goes forward is alike itself. -/
theorem alikeAt_self (ends : Ends moved state (part state)) : AlikeAt moved state part part :=
  ⟨rfl, ends⟩

theorem AlikeAt.weaken (alike : AlikeAt moved state part part') :
    AlikeAt false state part part' :=
  ⟨alike.1, alike.2.weaken⟩

theorem Alike.weaken (alike : Alike depth moved part part') : Alike depth false part part' :=
  fun state deep => (alike state deep).weaken

/-- **One part after another.** -/
theorem AlikeAt.bind {rest rest' : α → Parsing β} (alike : AlikeAt moved state part part')
    (goesOn : ∀ value, Alike state.depth later (rest value) (rest' value)) :
    AlikeAt (moved || later) state (part >>= rest) (part' >>= rest') := by
  obtain ⟨same, ends⟩ := alike
  show EStateM.bind part rest state = EStateM.bind part' rest' state ∧
    Ends _ state (EStateM.bind part rest state)
  unfold EStateM.bind
  rw [← same]
  generalize part state = result at ends
  cases ends with
  | error reaches => exact ⟨rfl, .error reaches⟩
  | ok reaches =>
    obtain ⟨same, ends⟩ := goesOn _ _ reaches.depth
    exact ⟨same, ends.after reaches⟩

theorem Alike.bind {rest rest' : α → Parsing β} (alike : Alike depth moved part part')
    (goesOn : ∀ value, Alike depth later (rest value) (rest' value)) :
    Alike depth (moved || later) (part >>= rest) (part' >>= rest') := by
  rintro state rfl
  exact (alike state rfl).bind goesOn

theorem current_bind (next : Option Token → Parsing α) (state : State) :
    (current >>= next) state = next state.stream.rest.head? state :=
  rfl

theorem advance_bind (next : Unit → Parsing α) (state : State) :
    (advance >>= next) state = next () state.advance :=
  rfl

theorem skipNegation_bind (next : Bool → Parsing α) (state : State) :
    (skipNegation >>= next) state =
      if state.stream.negatesTest then next true state.advance else next false state := by
  show EStateM.bind skipNegation next state = _
  unfold EStateM.bind skipNegation
  split_ifs <;> rfl

theorem alikeAt_current {next next' : Option Token → Parsing α}
    (alike : AlikeAt moved state (next state.stream.rest.head?) (next' state.stream.rest.head?)) :
    AlikeAt moved state (current >>= next) (current >>= next') :=
  alike

/-- A token that is there is passed. -/
theorem alikeAt_advance {token : Token} (head : state.stream.rest.head? = some token) :
    AlikeAt true state advance advance :=
  alikeAt_self (.ok (state.reaches_advance head))

/-! ## Single tokens and nodes -/

theorem alike_pure (value : α) : Alike depth false (pure value) (pure value) :=
  fun state _ => alikeAt_self (.ok (.refl state))

theorem alike_fail (error : ParseError) :
    Alike depth moved (fail error : Parsing α) (fail error) :=
  fun state _ => alikeAt_self (.error (.refl state))

theorem alike_unexpected (expected : Expected) :
    Alike depth moved (unexpected expected : Parsing α) (unexpected expected) :=
  fun state _ => alikeAt_self (.error (.refl state))

theorem alike_node (kind : NodeKind) (children : List Nat) :
    Alike depth false (node kind children) (node kind children) := by
  refine fun state _ => alikeAt_self ?_
  unfold node
  cases Builder.node kind children state.builder with
  | error error builder => exact .error ⟨⟨[], .refl state.stream, nofun⟩, rfl⟩
  | ok id builder => exact .ok ⟨⟨[], .refl state.stream, nofun⟩, rfl⟩

theorem alike_number (text : String) : Alike depth false (number text) (number text) := by
  unfold number
  cases numeral? text with
  | none => exact alike_fail _
  | some number => exact alike_node _ _

theorem alike_negateIf (negated : Bool) (test : Nat) :
    Alike depth false (negateIf negated test) (negateIf negated test) := by
  cases negated with
  | false => exact alike_pure test
  | true => exact alike_node .not [test]

theorem alike_expectSymbol (symbol : Symbol) :
    Alike depth true (expectSymbol symbol) (expectSymbol symbol) := by
  refine fun state _ => alikeAt_self ?_
  unfold expectSymbol expect Stream.expectSymbol
  dsimp only
  split_ifs with head
  · exact .ok (state.reaches_advance head)
  · exact .error (.refl state)

theorem alike_expectKeyword (keyword : Keyword) :
    Alike depth true (expectKeyword keyword) (expectKeyword keyword) := by
  refine fun state _ => alikeAt_self ?_
  unfold expectKeyword expect Stream.expectKeyword
  dsimp only
  split_ifs with head
  · exact .ok (state.reaches_advance head)
  · exact .error (.refl state)

theorem alike_skipNegation : Alike depth false skipNegation skipNegation := by
  refine fun state _ => alikeAt_self ?_
  unfold skipNegation Stream.negatesTest
  split_ifs with negates
  · have head := eq_of_beq (Bool.and_eq_true_iff.1 negates).1
    exact .ok (state.reaches_advance head).weaken
  · exact .ok (.refl state)

theorem alike_escapeClause : Alike depth false escapeClause escapeClause := by
  intro state deep
  unfold escapeClause
  refine alikeAt_current ?_
  split_ifs with head
  · refine ((alikeAt_advance head).bind fun _ => (?_ : Alike _ false _ _)).weaken
    intro state deep
    refine alikeAt_current ?_
    rcases head : state.stream.rest.head? with _ | _ | _ | text | _ | _
    case some.string =>
      refine ((alikeAt_advance head).bind fun _ => (?_ : Alike _ false _ _)).weaken
      split
      · exact alike_pure _
      · exact alike_fail _
    all_goals exact alike_unexpected _ state deep
  · exact alike_pure none state deep

/-! ## Chains and lists -/

/-- What comes after a part matters only where the part can end. -/
theorem Ends.bind_congr {rest rest' : α → Parsing β} (ends : Ends moved state (part state))
    (same : ∀ value next, state.Reaches moved next → rest value next = rest' value next) :
    (part >>= rest) state = (part >>= rest') state := by
  show EStateM.bind part rest state = EStateM.bind part rest' state
  unfold EStateM.bind
  generalize part state = result at ends
  cases ends with
  | error => rfl
  | ok reaches => exact same _ _ reaches

end Combinators

section Chains

variable {depth : Nat} {moved : Bool} {operand operand' : Rule}
  {operator? : Token → Option NodeKind}

/-- One operator of a chain and then the others, if the chain has become shorter. -/
theorem chainFrom_of_operator {state : State} {kind : NodeKind}
    (isOperator : state.stream.rest.head?.bind operator? = some kind) (left : Nat) :
    chainFrom operand operator? left state =
      (link operand kind left >>= fun node next =>
        if next.stream.rest.length < state.stream.rest.length then
          chainFrom operand operator? node next
        else .ok node next) state := by
  rw [chainFrom, isOperator]
  show _ = EStateM.bind _ _ state
  unfold EStateM.bind
  dsimp only
  cases link operand kind left state <;> rfl

theorem alikeAt_link (alike : Alike depth moved operand operand') {state : State}
    (deep : state.depth = depth) {kind : NodeKind}
    (isOperator : state.stream.rest.head?.bind operator? = some kind) (left : Nat) :
    AlikeAt true state (link operand kind left) (link operand' kind left) := by
  subst deep
  obtain ⟨token, head, _⟩ := Option.bind_eq_some_iff.1 isOperator
  exact (alikeAt_advance head).bind fun _ => alike.bind fun right => alike_node kind [left, right]

theorem alike_chainFrom (alike : Alike depth moved operand operand') (left : Nat) :
    Alike depth false (chainFrom operand operator? left) (chainFrom operand' operator? left) := by
  intro state deep
  induction length : state.stream.rest.length using Nat.strongRecOn generalizing left state with
  | ind length ih =>
    subst length
    cases isOperator : state.stream.rest.head?.bind operator? with
    | none =>
      rw [AlikeAt, chainFrom, chainFrom, isOperator]
      exact alike_pure left state deep
    | some kind =>
      rw [AlikeAt, chainFrom_of_operator isOperator, chainFrom_of_operator isOperator]
      refine ((alikeAt_link alike deep isOperator left).bind fun node =>
        (?_ : Alike _ false _ _)).weaken
      intro next deep'
      unfold AlikeAt
      dsimp only
      split_ifs with shorter
      · exact ih _ shorter node next (deep'.trans deep) rfl
      · exact alike_pure node next rfl

theorem alike_chain (alike : Alike depth moved operand operand') :
    Alike depth moved (chain operand operator?) (chain operand' operator?) :=
  Bool.or_false moved ▸ alike.bind (alike_chainFrom alike)

/-- **A chain goes on as long as there is an operator.** -/
theorem chainFrom_eq (forward : ∀ state, Ends moved state (operand state)) (left : Nat) :
    chainFrom operand operator? left = (do
      match (← current).bind operator? with
      | some kind =>
        let node ← link operand kind left
        chainFrom operand operator? node
      | none => pure left) := by
  funext state
  rw [current_bind]
  cases isOperator : state.stream.rest.head?.bind operator? with
  | none =>
    rw [chainFrom, isOperator]
    rfl
  | some kind =>
    rw [chainFrom_of_operator isOperator]
    have alike : Alike state.depth moved operand operand := fun state _ => ⟨rfl, forward state⟩
    refine (alikeAt_link alike rfl isOperator left).2.bind_congr fun node next reaches => ?_
    exact if_pos reaches.shorter

/-- One item and then the others, if a comma comes next and the list has become shorter. -/
theorem items_of_item (item : Rule) (state : State) :
    items item state = (item >>= fun first next =>
      if next.stream.rest.head? = some (.symbol .comma) ∧
          next.stream.advance.rest.length < state.stream.rest.length then
        (items item >>= fun rest => pure (first :: rest)) next.advance
      else .ok [first] next) state := by
  rw [items]
  show _ = EStateM.bind _ _ state
  unfold EStateM.bind
  cases item state with
  | error error next => rfl
  | ok first next =>
    refine if_congr Iff.rfl ?_ rfl
    show _ = EStateM.bind _ _ next.advance
    unfold EStateM.bind
    cases items item next.advance <;> rfl

theorem alike_items (alike : Alike depth moved operand operand') :
    Alike depth moved (items operand) (items operand') := by
  intro state deep
  induction length : state.stream.rest.length using Nat.strongRecOn generalizing state with
  | ind length ih =>
    subst length
    rw [AlikeAt, items_of_item, items_of_item]
    refine Bool.or_false moved ▸ (alike state deep).bind fun first => ?_
    intro next deep'
    unfold AlikeAt
    dsimp only
    split_ifs with more
    · have advanced : next.Reaches true next.advance := next.reaches_advance more.1
      have rest := (ih _ more.2 next.advance (deep'.trans deep) rfl).bind fun rest =>
        alike_pure (first :: rest)
      exact ⟨rest.1, (rest.2.after advanced).weaken⟩
    · exact alike_pure [first] next rfl

/-- **A list goes on as long as there is a comma.** -/
theorem items_eq (forward : ∀ state, Ends moved state (operand state)) :
    items operand = (do
      let first ← operand
      if (← current) = some (.symbol .comma) then
        advance
        let rest ← items operand
        pure (first :: rest)
      else pure [first]) := by
  funext state
  rw [items_of_item]
  refine (forward state).bind_congr fun first next reaches => ?_
  rw [current_bind]
  by_cases comma : next.stream.rest.head? = some (.symbol .comma)
  · have shorter := (reaches.trans (next.reaches_advance comma))
    rw [Bool.or_true] at shorter
    rw [if_pos ⟨comma, shorter.shorter⟩, if_pos comma, advance_bind]
  · rw [if_neg (mt And.left comma), if_neg comma]
    rfl

theorem alike_listInParens (alike : Alike depth moved operand operand') :
    Alike depth true (listInParens operand) (listInParens operand') :=
  (alike_expectSymbol .leftParen).bind fun _ => (alike_items alike).bind fun ids =>
    (alike_expectSymbol .rightParen).bind fun _ => alike_pure ids

end Chains

/-! ## The rules of one level -/

/-- The rules that open a new level are alike. -/
structure AlikeBelow (depth : Nat) (inner inner' : Nested) : Prop where
  disjunction : Alike depth true inner.disjunction inner'.disjunction
  negation : Alike depth true inner.negation inner'.negation
  factor : Alike depth true inner.factor inner'.factor

section Level

variable {depth : Nat} {inner inner' : Nested} (below : AlikeBelow depth inner inner')
include below

theorem alike_primary : Alike depth true (primary inner) (primary inner') := by
  rintro state rfl
  refine alikeAt_current ?_
  rcases head : state.stream.rest.head? with _ | name | text | text | word | mark
  · exact alike_unexpected .expression state rfl
  · exact (alikeAt_advance head).bind fun _ => alike_node (.property name) []
  · exact (alikeAt_advance head).bind fun _ => alike_number text
  · exact (alikeAt_advance head).bind fun _ => alike_node (.literal (.string text)) []
  · cases word with
    | true => exact (alikeAt_advance head).bind fun _ => alike_node (.literal (.boolean true)) []
    | false => exact (alikeAt_advance head).bind fun _ => alike_node (.literal (.boolean false)) []
    | any =>
      exact (alikeAt_advance head).bind fun _ =>
        (alike_listInParens below.disjunction).bind fun operands => alike_node .any operands
    | _ => exact alike_unexpected .expression state rfl
  · cases mark with
    | leftParen =>
      exact (alikeAt_advance head).bind fun _ => below.disjunction.bind fun id =>
        (alike_expectSymbol .rightParen).bind fun _ => alike_pure id
    | _ => exact alike_unexpected .expression state rfl

theorem alike_factor : Alike depth true (factor inner) (factor inner') := by
  rintro state rfl
  have primary := alike_primary below state rfl
  refine alikeAt_current ?_
  rcases head : state.stream.rest.head? with _ | _ | _ | _ | _ | mark
  case some.symbol =>
    cases mark with
    | plus => exact (alikeAt_advance head).bind fun _ => below.factor
    | minus =>
      refine (alikeAt_advance head).bind fun _ => (?_ : Alike _ true _ _)
      rintro next deep
      have negate := (below.factor.bind fun operand => alike_node .negate [operand]) next deep
      refine alikeAt_current ?_
      rcases head : next.stream.rest.head? with _ | _ | text | _ | _ | _
      case some.number => exact (alikeAt_advance head).bind fun _ => alike_number ("-" ++ text)
      all_goals exact negate
    | _ => exact primary
  all_goals exact primary

theorem alike_sum : Alike depth true (sum inner) (sum inner') :=
  alike_chain (alike_chain (alike_factor below))

omit below in
theorem alike_truthTest (left : Nat) (negated : Bool) :
    Alike depth true (truthTest left negated) (truthTest left negated) := by
  rintro state rfl
  unfold truthTest
  extract_lets against
  have alike_against (b : Bool) : Alike state.depth false
      (node (.literal (.boolean b)) [] >>= fun literal =>
        node (.compare (if negated then .ne else .eq)) [left, literal])
      (node (.literal (.boolean b)) [] >>= fun literal =>
        node (.compare (if negated then .ne else .eq)) [left, literal]) :=
    (alike_node _ _).bind fun literal => alike_node _ _
  refine alikeAt_current ?_
  rcases head : state.stream.rest.head? with _ | _ | _ | _ | word | _
  case some.keyword =>
    cases word with
    | null =>
      exact (alikeAt_advance head).bind fun _ =>
        (alike_node .isNull [left]).bind fun test => alike_negateIf negated test
    | true => exact (alikeAt_advance head).bind fun _ => alike_against true
    | false => exact (alikeAt_advance head).bind fun _ => alike_against false
    | _ => exact alike_unexpected .truthTest state rfl
  all_goals exact alike_unexpected .truthTest state rfl

theorem alike_between (value : Nat) :
    Alike depth true (between inner value) (between inner' value) :=
  (alike_sum below).bind fun low => (alike_expectKeyword .and).bind fun _ =>
    (alike_sum below).bind fun high => alike_node .between [value, low, high]

theorem alike_inList (value : Nat) : Alike depth true (inList inner value) (inList inner' value) :=
  (alike_listInParens below.disjunction).bind fun items => alike_node .inList (value :: items)

theorem alike_compare (operator : Comparison) (left : Nat) :
    Alike depth true (compare inner operator left) (compare inner' operator left) :=
  (alike_sum below).bind fun right => alike_node (.compare operator) [left, right]

variable [Engine]

omit below in
theorem alike_pattern (pattern' : Pattern) :
    Alike depth false (pattern pattern') (pattern pattern') := by
  unfold pattern
  cases pattern'.compile with
  | error message => exact alike_fail _
  | ok test => exact alike_node _ _

theorem alike_likePattern : Alike depth true (likePattern inner) (likePattern inner') := by
  rintro state rfl
  have sum := alike_sum below state rfl
  refine alikeAt_current ?_
  rcases head : state.stream.rest.head? with _ | _ | _ | text | _ | _
  case some.string =>
    exact (alikeAt_advance head).bind fun _ =>
      alike_escapeClause.bind fun escape => alike_pattern ⟨text, escape⟩
  all_goals exact sum

theorem alike_like (subject : Nat) : Alike depth true (like inner subject) (like inner' subject) :=
  (alike_likePattern below).bind fun pattern => alike_node .like [subject, pattern]

theorem alike_testOf (left : Nat) :
    Alike depth false (testOf inner left) (testOf inner' left) := by
  refine alike_skipNegation.bind fun negated => (?_ : Alike _ false _ _)
  rintro state rfl
  have alone : AlikeAt false state (pure left) (pure left) := alike_pure left state rfl
  have negate (test : Nat) : Alike state.depth false _ _ := alike_negateIf negated test
  refine alikeAt_current ?_
  rcases head : state.stream.rest.head? with _ | _ | _ | _ | word | mark
  case some.keyword =>
    cases word with
    | between =>
      exact ((alikeAt_advance head).bind fun _ => (alike_between below left).bind negate).weaken
    | inList =>
      exact ((alikeAt_advance head).bind fun _ => (alike_inList below left).bind negate).weaken
    | like =>
      exact ((alikeAt_advance head).bind fun _ => (alike_like below left).bind negate).weaken
    | _ => exact alone
  case some.symbol =>
    cases mark with
    | equal | notEqual | less | greater | lessEqual | greaterEqual =>
      exact ((alikeAt_advance head).bind fun _ => (alike_compare below _ left).bind negate).weaken
    | _ => exact alone
  all_goals exact alone

theorem alike_test : Alike depth true (test inner) (test inner') := by
  refine (alike_sum below).bind fun left => (?_ : Alike _ false _ _)
  rintro state rfl
  refine alikeAt_current ?_
  split_ifs with head
  · refine ((alikeAt_advance head).bind fun _ => (?_ : Alike _ true _ _)).weaken
    rintro next deep
    refine alikeAt_current ?_
    split_ifs with head
    · exact (alikeAt_advance head).bind fun _ => alike_truthTest left true
    · exact alike_truthTest left false next deep
  · exact alike_testOf below left state rfl

theorem alike_negation : Alike depth true (negation inner) (negation inner') := by
  rintro state rfl
  refine alikeAt_current ?_
  split_ifs with head
  · exact (alikeAt_advance head).bind fun _ => below.negation.bind fun operand =>
      alike_node .not [operand]
  · exact alike_test below state rfl

theorem alike_conjunction : Alike depth true (conjunction inner) (conjunction inner') :=
  alike_chain (alike_negation below)

theorem alike_disjunction : Alike depth true (disjunction inner) (disjunction inner') :=
  alike_chain (alike_conjunction below)

end Level

/-! ## All levels -/

/-- A rule one level deeper.  The level is closed again however the rule ends. -/
theorem alike_deeper {depth : Nat} {rule rule' : Rule} (alike : Alike (depth + 1) true rule rule') :
    Alike depth true (deeper rule) (deeper rule') := by
  rintro state rfl
  unfold AlikeAt deeper
  split_ifs with room
  · obtain ⟨same, ends⟩ := alike { state with depth := state.depth + 1, shallow := room } rfl
    rw [← same]
    refine ⟨rfl, ?_⟩
    generalize rule { state with depth := state.depth + 1, shallow := room } = result at ends
    cases ends with
    | ok reaches => exact .ok ⟨reaches.tokens, Nat.sub_eq_of_eq_add reaches.depth⟩
    | error reaches => exact .error ⟨reaches.tokens, Nat.sub_eq_of_eq_add reaches.depth⟩
  · exact ⟨rfl, .error (.refl state)⟩

section Levels

/-- No state has more open levels than may be opened. -/
theorem alikeBelow_of_deep {depth : Nat} {inner inner' : Nested} (tooMany : maxDepth < depth) :
    AlikeBelow depth inner inner' := by
  have alike {rule rule' : Rule} : Alike depth true rule rule' := by
    rintro state rfl
    exact absurd state.shallow (Nat.not_le_of_lt tooMany)
  exact ⟨alike, alike, alike⟩

variable [Engine]

/-- The levels that are told apart do not matter, as long as there are more of them than may be
opened. -/
theorem alike_nested {levels levels' depth : Nat}
    (enough : levels = levels' ∨ maxDepth < levels + depth ∧ maxDepth < levels' + depth) :
    AlikeBelow depth (nested levels) (nested levels') := by
  induction levels generalizing levels' depth with
  | zero =>
    cases levels' with
    | zero => exact ⟨alike_fail _, alike_fail _, alike_fail _⟩
    | succ levels' => exact alikeBelow_of_deep (by omega)
  | succ levels ih =>
    cases levels' with
    | zero => exact alikeBelow_of_deep (by omega)
    | succ levels' =>
      have below : AlikeBelow (depth + 1) (nested levels) (nested levels') :=
        ih (by omega)
      exact ⟨alike_deeper (alike_disjunction below), alike_deeper (alike_negation below),
        alike_deeper (alike_factor below)⟩

/-- The rules that open a new level, as the parser of a whole predicate uses them. -/
def recursive : Nested :=
  nested (maxDepth + 1)

/-- The rules go forward wherever they begin. -/
theorem alike_recursive (depth : Nat) : AlikeBelow depth recursive recursive :=
  alike_nested (.inl rfl)

/-- **The rules call each other, and only the count of open levels ends that.** -/
theorem recursive_eq :
    recursive = ⟨deeper (disjunction recursive), deeper (negation recursive),
      deeper (factor recursive)⟩ := by
  have same (depth : Nat) : AlikeBelow depth recursive (nested (maxDepth + 1 + 1)) :=
    alike_nested (.inr ⟨by omega, by omega⟩)
  show recursive = nested (maxDepth + 1 + 1)
  have disjunction : recursive.disjunction = (nested (maxDepth + 1 + 1)).disjunction :=
    funext fun state => ((same state.depth).disjunction state rfl).1
  have negation : recursive.negation = (nested (maxDepth + 1 + 1)).negation :=
    funext fun state => ((same state.depth).negation state rfl).1
  have factor : recursive.factor = (nested (maxDepth + 1 + 1)).factor :=
    funext fun state => ((same state.depth).factor state rfl).1
  exact congr (congrArg₂ Nested.mk disjunction negation) factor

/-- The rule for a category. -/
def rule : Grammar.Category → Rule
  | .disjunction => disjunction recursive
  | .conjunction => conjunction recursive
  | .negation => negation recursive
  | .test => test recursive
  | .sum => sum recursive
  | .product => product recursive
  | .factor => factor recursive
  | .primary => primary recursive

theorem alike_rule (depth : Nat) (category : Grammar.Category) :
    Alike depth true (rule category) (rule category) := by
  have below := alike_recursive depth
  cases category with
  | disjunction => exact alike_disjunction below
  | conjunction => exact alike_conjunction below
  | negation => exact alike_negation below
  | test => exact alike_test below
  | sum => exact alike_sum below
  | product => exact alike_chain (alike_factor below)
  | factor => exact alike_factor below
  | primary => exact alike_primary below

end Levels

/-! ## Progress in a list of tokens -/

/-- What is left of a list of tokens begins at the position, which is not beyond its end. -/
structure State.Within (tokens : List Token) (state : State) : Prop where
  position_le : state.stream.position ≤ tokens.length
  rest_eq : state.stream.rest = tokens.drop state.stream.position

theorem State.within_start (tokens : List Token) : (State.start tokens).Within tokens :=
  ⟨Nat.zero_le _, rfl⟩

/-- What has been reached is within the tokens, and further on by what was read. -/
theorem State.Reaches.within {moved : Bool} {tokens : List Token} {state next : State}
    (reaches : state.Reaches moved next) (within : state.Within tokens) :
    next.Within tokens ∧ state.stream.position ≤ next.stream.position ∧
      (moved = true → state.stream.position < next.stream.position) := by
  obtain ⟨⟨read, ⟨rest, position⟩, some⟩, _⟩ := reaches
  have left : tokens.drop state.stream.position = read ++ next.stream.rest :=
    within.rest_eq.symm.trans rest
  have count : tokens.length - state.stream.position = read.length + next.stream.rest.length := by
    rw [← List.length_drop, left, List.length_append]
  have inside := within.position_le
  refine ⟨⟨by omega, ?_⟩, by omega, fun isMoved => ?_⟩
  · rw [position, ← List.drop_drop, left, List.drop_left]
  · have := List.length_pos_iff.2 (some isMoved)
    omega

/-- **A part of the parser makes progress in a list of tokens.**  Wherever it begins, it ends within
the tokens and with as many levels open as before, which are never too many.  If it succeeds it has
read a token at least, and if it fails it has not gone back. -/
def Progresses {α : Type} (tokens : List Token) (part : Parsing α) : Prop :=
  ∀ state : State, state.Within tokens →
    match part state with
    | .ok _ next => next.Within tokens ∧ state.stream.position < next.stream.position ∧
      next.depth = state.depth ∧ next.depth ≤ maxDepth
    | .error _ next => next.Within tokens ∧ state.stream.position ≤ next.stream.position ∧
      next.depth = state.depth ∧ next.depth ≤ maxDepth

theorem progresses_of_alike {α : Type} {part : Parsing α}
    (alike : ∀ depth, Alike depth true part part) (tokens : List Token) :
    Progresses tokens part := by
  intro state within
  have ends := (alike state.depth state rfl).2
  generalize part state = result at ends
  cases ends with
  | @ok _ next reaches =>
    obtain ⟨within', _, further⟩ := reaches.within within
    exact ⟨within', further rfl, reaches.depth, next.shallow⟩
  | @error _ next reaches =>
    obtain ⟨within', further, _⟩ := reaches.within within
    exact ⟨within', further, reaches.depth, next.shallow⟩

variable [Engine]

/-- A whole predicate is parsed by the rule for a disjunction, which has read all tokens if an
expression comes out. -/
theorem parseExpression_finishes {tokens : List Token} {expression : Expression}
    (parsed : parseExpression tokens = .ok expression) :
    ∃ root state, recursive.disjunction (.start tokens) = .ok root state ∧
      state.stream = ⟨tokens.length, []⟩ ∧ state.depth = 0 := by
  have ends := progresses_of_alike (fun depth => (alike_recursive depth).disjunction) tokens
    (.start tokens) (State.within_start tokens)
  unfold parseExpression at parsed
  rw [← recursive] at parsed
  cases run : recursive.disjunction (.start tokens) with
  | error error state =>
    rw [run] at parsed
    cases parsed
  | ok root state =>
    rw [run] at ends parsed
    obtain ⟨⟨inside, left⟩, _, depth, _⟩ := ends
    dsimp only at parsed
    split at parsed
    case h_1 finished =>
      refine ⟨root, state, rfl, ?_, depth⟩
      have all : tokens.length ≤ state.stream.position := by
        rw [← List.drop_eq_nil_iff, ← left, finished]
      have position := Nat.le_antisymm inside all
      rw [← position, ← finished]
    case h_2 => cases parsed

/-- **The parser always makes progress.**  In every list of tokens each of its rules does, those
that open a level and those that do not, and so do the rules for lists and patterns.  The rules call
each other with no other bound than the count of open levels, and their loops go on as long as there
is an operator or a comma.  An expression comes out only if all tokens have been read. -/
theorem parser_progresses (tokens : List Token) :
    ((∀ category, Progresses tokens (rule category)) ∧
      Progresses tokens recursive.disjunction ∧ Progresses tokens recursive.negation ∧
      Progresses tokens recursive.factor ∧ Progresses tokens (items recursive.disjunction) ∧
      Progresses tokens (likePattern recursive)) ∧
    recursive = ⟨deeper (rule .disjunction), deeper (rule .negation), deeper (rule .factor)⟩ ∧
    (∀ category operator? left, chainFrom (rule category) operator? left = (do
      match (← current).bind operator? with
      | some kind =>
        let node ← link (rule category) kind left
        chainFrom (rule category) operator? node
      | none => pure left)) ∧
    (items recursive.disjunction = (do
      let first ← recursive.disjunction
      if (← current) = some (.symbol .comma) then
        advance
        let rest ← items recursive.disjunction
        pure (first :: rest)
      else pure [first])) ∧
    ∀ expression, parseExpression tokens = .ok expression →
      ∃ root state, recursive.disjunction (.start tokens) = .ok root state ∧
        state.stream = ⟨tokens.length, []⟩ ∧ state.depth = 0 := by
  have below := alike_recursive
  refine ⟨⟨fun category => ?_, ?_, ?_, ?_, ?_, ?_⟩, recursive_eq, fun category operator? left => ?_,
    ?_, fun expression => parseExpression_finishes⟩
  · exact progresses_of_alike (fun depth => alike_rule depth category) tokens
  · exact progresses_of_alike (fun depth => (below depth).disjunction) tokens
  · exact progresses_of_alike (fun depth => (below depth).negation) tokens
  · exact progresses_of_alike (fun depth => (below depth).factor) tokens
  · exact progresses_of_alike (fun depth => alike_items (below depth).disjunction) tokens
  · exact progresses_of_alike (fun depth => alike_likePattern (below depth)) tokens
  · exact chainFrom_eq (fun state => (alike_rule state.depth category state rfl).2) left
  · exact items_eq fun state => ((below state.depth).disjunction state rfl).2

end Sift.Parser
