import Sift.Expression.Builder
import Sift.Language.Lexer
import Sift.Number.Decimal
import Sift.Pattern.Engine

/-!
# From tokens to predicates

A predicate is read by descent along its grammar, from the weakest operator to the strongest:

* a *disjunction* is a chain of conjunctions joined by `OR`, a *conjunction* a chain of negations
  joined by `AND`, and a *negation* any number of `NOT` before a test;
* a *test* is a sum, alone or followed by `IS`, `BETWEEN`, `IN`, `LIKE` or a comparison with
  another sum;
* a *sum* is a chain of products, a *product* a chain of factors, and a *factor* any number of
  signs before a primary;
* a *primary* is a literal, a property, `ANY` over a list of disjunctions, or a disjunction in
  parentheses.

Chains lean to the left.  A negated test is the negation of the test, `IS TRUE` and `IS FALSE` are
comparisons, a plus sign means nothing, and a minus sign directly before a number belongs to the
number, so that the least integer can be written.  A quoted text directly behind `LIKE` is a
pattern, with an escape character if one is given.

Every rule builds the node of what it reads as soon as it has read all of it, over the nodes that
the rules below it have built, and hands on its position.  At the end the node of the whole
predicate is made the root.

Parentheses, list items, `NOT` and signs nest, and nesting is bounded.  The parser counts the levels
that are open and refuses to open another one when there are too many (`deeper`).  The functions for
one level take those for the levels below it as an argument (`Nested`), so the levels are a plain
recursion on a number, which ends behind the last level that can be opened.  Within a level every
chain gets shorter by at least one token at each step.
-/

namespace Sift.Parser

/-! ## Single tokens -/

/-- The tokens that are not read yet, and the position of the first of them. -/
structure Stream where
  position : Nat
  rest : List Token
  deriving DecidableEq, Repr

/-- The stream behind the next token.  At its end a stream stays where it is. -/
def Stream.advance (stream : Stream) : Stream :=
  match stream.rest with
  | [] => stream
  | _ :: rest => ⟨stream.position + 1, rest⟩

/-- The next token is not what is expected. -/
def Stream.unexpected (stream : Stream) (expected : Expected) : ParseError :=
  .unexpected stream.position expected stream.rest.head?

/-- The stream behind a symbol that must come next. -/
def Stream.expectSymbol (stream : Stream) (symbol : Symbol) : Except ParseError Stream :=
  if stream.rest.head? = some (.symbol symbol) then .ok stream.advance
  else .error (stream.unexpected (.token (.symbol symbol)))

/-- The stream behind a reserved word that must come next. -/
def Stream.expectKeyword (stream : Stream) (keyword : Keyword) : Except ParseError Stream :=
  if stream.rest.head? = some (.keyword keyword) then .ok stream.advance
  else .error (stream.unexpected (.token (.keyword keyword)))

/-- The number that a text stands for.  A point or an exponent makes it a float; an integer has to
be within the range of its type. -/
def numeral? (text : String) : Option Numeral :=
  let chars := text.toList
  if chars.any fun c => c == '.' || c == 'e' || c == 'E' then
    (Number.readFloat? chars).map Numeral.float
  else (Number.readInt64? chars).map Numeral.integer

/-- Whether `NOT` comes next and negates the test behind it. -/
def Stream.negatesTest (stream : Stream) : Bool :=
  stream.rest.head? == some (.keyword .not) &&
    match stream.advance.rest.head? with
    | some (.keyword .between) | some (.keyword .inList) | some (.keyword .like) => true
    | _ => false

/-! ## Operators -/

/-- The operators of a product. -/
def productOperator? : Token → Option NodeKind
  | .symbol .star => some (.arithmetic .multiply)
  | .symbol .slash => some (.arithmetic .divide)
  | .symbol .percent => some (.arithmetic .modulus)
  | _ => none

/-- The operators of a sum. -/
def sumOperator? : Token → Option NodeKind
  | .symbol .plus => some (.arithmetic .add)
  | .symbol .minus => some (.arithmetic .subtract)
  | _ => none

/-- The comparison that a token stands for. -/
def comparison? : Token → Option Comparison
  | .symbol .equal => some .eq
  | .symbol .notEqual => some .ne
  | .symbol .less => some .lt
  | .symbol .greater => some .gt
  | .symbol .lessEqual => some .le
  | .symbol .greaterEqual => some .ge
  | _ => none

/-- The operator of a chain of one connective. -/
def connective? (operator : Connective) : Token → Option NodeKind
  | .keyword .and => if operator = .and then some (.connect .and) else none
  | .keyword .or => if operator = .or then some (.connect .or) else none
  | _ => none

/-! ## Reading and building -/

/-- The tokens that are left, how many levels of nesting are open, and the nodes of what has been
read. -/
structure State where
  stream : Stream
  depth : Nat
  shallow : depth ≤ maxDepth
  builder : Builder

/-- The state in front of all tokens. -/
def State.start (tokens : List Token) : State :=
  ⟨⟨0, tokens⟩, 0, Nat.zero_le _, .empty⟩

/-- The state behind the next token. -/
def State.advance (state : State) : State :=
  { state with stream := state.stream.advance }

@[simp] theorem State.advance_stream (state : State) :
    state.advance.stream = state.stream.advance := rfl

@[simp] theorem State.advance_depth (state : State) : state.advance.depth = state.depth := rfl

@[simp] theorem State.advance_builder (state : State) :
    state.advance.builder = state.builder := rfl

/-- A part of the parser.  It goes on from one state to another, also if it fails. -/
abbrev Parsing := EStateM ParseError State

/-- A rule of the grammar.  It gives the position of the node that it has built for what it has
read. -/
abbrev Rule := Parsing Nat

/-- The next token, unless none is left. -/
def current : Parsing (Option Token) := fun state => .ok state.stream.rest.head? state

/-- Go on behind the next token. -/
def advance : Parsing Unit := fun state => .ok () state.advance

/-- Go on where the tokens that come next have been accepted. -/
def expect (accept : Stream → Except ParseError Stream) : Parsing Unit := fun state =>
  match accept state.stream with
  | .ok stream => .ok () { state with stream }
  | .error error => .error error state

/-- Go on behind a symbol that must come next. -/
def expectSymbol (symbol : Symbol) : Parsing Unit :=
  expect fun stream => stream.expectSymbol symbol

/-- Go on behind a reserved word that must come next. -/
def expectKeyword (keyword : Keyword) : Parsing Unit :=
  expect fun stream => stream.expectKeyword keyword

/-- Go on behind `NOT` if it negates the test behind it, and say whether it does. -/
def skipNegation : Parsing Bool := fun state =>
  if state.stream.negatesTest then .ok true state.advance else .ok false state

/-- Give up. -/
def fail {α : Type} (error : ParseError) : Parsing α := fun state => .error error state

/-- Give up, since the next token is not what is expected. -/
def unexpected {α : Type} (expected : Expected) : Parsing α := fun state =>
  .error (state.stream.unexpected expected) state

/-- Build a node over nodes that have been built. -/
def node (kind : NodeKind) (children : List Nat) : Rule := fun state =>
  match Builder.node kind children state.builder with
  | .ok id builder => .ok id { state with builder }
  | .error error builder => .error (.build error) { state with builder }

/-- Build the literal of a number text. -/
def number (text : String) : Rule :=
  match numeral? text with
  | some number => node (.literal (.number number)) []
  | none => fail (.invalidNumber text)

/-- Negate a test that was written with `NOT`. -/
def negateIf (negated : Bool) (test : Nat) : Rule :=
  if negated then node .not [test] else pure test

/-- The escape character of a pattern, if one is given. -/
def escapeClause : Parsing (Option Char) := do
  if (← current) = some (.keyword .escape) then
    advance
    match ← current with
    | some (.string text) =>
      advance
      match text.toList with
      | [c] => pure (some c)
      | _ => fail (.invalidEscape text)
    | _ => unexpected .escapeCharacter
  else pure none

/-! ## Chains and lists -/

/-- An operator with its right operand. -/
def link (operand : Rule) (kind : NodeKind) (left : Nat) : Rule := do
  advance
  let right ← operand
  node kind [left, right]

/-- Go on with a chain of operands joined by operators of one precedence. -/
def chainFrom (operand : Rule) (operator? : Token → Option NodeKind) (left : Nat) : Rule :=
  fun state =>
    match state.stream.rest.head?.bind operator? with
    | none => .ok left state
    | some kind =>
      match link operand kind left state with
      | .error error next => .error error next
      | .ok id next =>
        if next.stream.rest.length < state.stream.rest.length then
          chainFrom operand operator? id next
        else .ok id next
termination_by state => state.stream.rest.length

/-- A chain of operands, leaning to the left. -/
def chain (operand : Rule) (operator? : Token → Option NodeKind) : Rule := do
  let left ← operand
  chainFrom operand operator? left

/-- A list of items separated by commas, of which there is at least one. -/
def items (item : Rule) : Parsing (List Nat) := fun state =>
  match item state with
  | .error error next => .error error next
  | .ok first next =>
    if next.stream.rest.head? = some (.symbol .comma) ∧
        next.stream.advance.rest.length < state.stream.rest.length then
      match items item next.advance with
      | .error error behind => .error error behind
      | .ok rest behind => .ok (first :: rest) behind
    else .ok [first] next
termination_by state => state.stream.rest.length

/-- A list in parentheses. -/
def listInParens (item : Rule) : Parsing (List Nat) := do
  expectSymbol .leftParen
  let ids ← items item
  expectSymbol .rightParen
  pure ids

/-! ## One level of nesting -/

/-- The rules that open a new level of nesting. -/
structure Nested where
  disjunction : Rule
  negation : Rule
  factor : Rule

/-- A primary. -/
def primary (inner : Nested) : Rule := do
  match ← current with
  | some (.number text) =>
    advance
    number text
  | some (.string text) =>
    advance
    node (.literal (.string text)) []
  | some (.keyword .true) =>
    advance
    node (.literal (.boolean true)) []
  | some (.keyword .false) =>
    advance
    node (.literal (.boolean false)) []
  | some (.identifier name) =>
    advance
    node (.property name) []
  | some (.keyword .any) =>
    advance
    let operands ← listInParens inner.disjunction
    node .any operands
  | some (.symbol .leftParen) =>
    advance
    let id ← inner.disjunction
    expectSymbol .rightParen
    pure id
  | _ => unexpected .expression

/-- A factor. -/
def factor (inner : Nested) : Rule := do
  match ← current with
  | some (.symbol .plus) =>
    advance
    inner.factor
  | some (.symbol .minus) =>
    advance
    match ← current with
    | some (.number text) =>
      advance
      number ("-" ++ text)
    | _ =>
      let operand ← inner.factor
      node .negate [operand]
  | _ => primary inner

/-- A product. -/
def product (inner : Nested) : Rule :=
  chain (factor inner) productOperator?

/-- A sum. -/
def sum (inner : Nested) : Rule :=
  chain (product inner) sumOperator?

/-- What follows `IS`, possibly negated. -/
def truthTest (left : Nat) (negated : Bool) : Rule := do
  let against (b : Bool) : Rule := do
    advance
    let literal ← node (.literal (.boolean b)) []
    node (.compare (if negated then .ne else .eq)) [left, literal]
  match ← current with
  | some (.keyword .null) =>
    advance
    let test ← node .isNull [left]
    negateIf negated test
  | some (.keyword .true) => against true
  | some (.keyword .false) => against false
  | _ => unexpected .truthTest

/-- What follows `BETWEEN`. -/
def between (inner : Nested) (value : Nat) : Rule := do
  let low ← sum inner
  expectKeyword .and
  let high ← sum inner
  node .between [value, low, high]

/-- What follows `IN`. -/
def inList (inner : Nested) (value : Nat) : Rule := do
  let items ← listInParens inner.disjunction
  node .inList (value :: items)

/-- What follows a comparison. -/
def compare (inner : Nested) (operator : Comparison) (left : Nat) : Rule := do
  let right ← sum inner
  node (.compare operator) [left, right]

variable [Engine]

/-- Build the literal of a pattern, which has to compile. -/
def pattern (pattern : Pattern) : Rule :=
  match pattern.compile with
  | .ok _ => node (.literal (.pattern pattern)) []
  | .error message => fail (.build (.invalidPattern pattern.text message))

/-- What follows `LIKE`.  A quoted text is compiled here, with its escape character; a pattern that
is computed has to wait for its value. -/
def likePattern (inner : Nested) : Rule := do
  match ← current with
  | some (.string text) =>
    advance
    let escape ← escapeClause
    pattern ⟨text, escape⟩
  | _ => sum inner

/-- A test for a pattern. -/
def like (inner : Nested) (subject : Nat) : Rule := do
  let pattern ← likePattern inner
  node .like [subject, pattern]

/-- A test whose left side has been read. -/
def testOf (inner : Nested) (left : Nat) : Rule := do
  let negated ← skipNegation
  match ← current with
  | some (.keyword .between) =>
    advance
    let test ← between inner left
    negateIf negated test
  | some (.keyword .inList) =>
    advance
    let test ← inList inner left
    negateIf negated test
  | some (.keyword .like) =>
    advance
    let test ← like inner left
    negateIf negated test
  | token =>
    match token.bind comparison? with
    | some operator =>
      advance
      let test ← compare inner operator left
      negateIf negated test
    | none => pure left

/-- A test. -/
def test (inner : Nested) : Rule := do
  let left ← sum inner
  if (← current) = some (.keyword .is) then
    advance
    if (← current) = some (.keyword .not) then
      advance
      truthTest left true
    else truthTest left false
  else testOf inner left

/-- A negation. -/
def negation (inner : Nested) : Rule := do
  if (← current) = some (.keyword .not) then
    advance
    let operand ← inner.negation
    node .not [operand]
  else test inner

/-- A conjunction. -/
def conjunction (inner : Nested) : Rule :=
  chain (negation inner) (connective? .and)

/-- A disjunction. -/
def disjunction (inner : Nested) : Rule :=
  chain (conjunction inner) (connective? .or)

/-! ## All levels -/

/-- The state with one level less open. -/
def State.leave (state : State) : State :=
  { state with depth := state.depth - 1, shallow := Nat.le_trans (Nat.sub_le ..) state.shallow }

/-- Go one level deeper for a while, if another level may be opened.  The level is closed again,
also if what is read there fails. -/
def deeper (rule : Rule) : Rule := fun state =>
  if room : state.depth < maxDepth then
    match rule { state with depth := state.depth + 1, shallow := room } with
    | .ok id next => .ok id next.leave
    | .error error next => .error error next.leave
  else .error .tooDeep state

/-- The rules that open a new level, when at most so many more are opened. -/
def nested : Nat → Nested
  | 0 => ⟨fail .tooDeep, fail .tooDeep, fail .tooDeep⟩
  | levels + 1 =>
    let inner := nested levels
    ⟨deeper (disjunction inner), deeper (negation inner), deeper (factor inner)⟩

/-- Read all tokens as one finished expression.  One level more than can be opened is told apart, so
that it is always the count of the open ones that ends the descent. -/
def parseExpression (tokens : List Token) : Except ParseError Expression :=
  match (nested (maxDepth + 1)).disjunction (.start tokens) with
  | .error error _ => .error error
  | .ok root state =>
    match state.stream.rest with
    | [] => (state.builder.build root).mapError .build
    | _ :: _ => .error (state.stream.unexpected .finish)

/-- Read a text as a finished expression. -/
def parse (text : String) : Except ParseError Expression := do
  let tokens ← (Lexer.tokenize text).mapError .lexical
  parseExpression tokens

end Sift.Parser
