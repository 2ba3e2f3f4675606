import Sift.Language.Parser

/-!
# Reading terms

The parser builds nodes while it goes along its grammar.  The same descent can be told without
nodes: every rule gives the term that it has read, and how deep it nests.  So told, what a rule
reads depends on the tokens alone, and the grammar can be compared with that.  The two go in step
(`Parser.parseExpression_eq`): the parser builds exactly the nodes of the term that is read here.
-/

namespace Sift.Descent

open Sift.Parser (Stream numeral? productOperator? sumOperator? comparison? connective?)

/-- A part of the grammar: it reads a term from a stream and leaves the stream behind it. -/
abbrev Rule := Stream → Except ParseError (Grown × Stream)

/-! ## Growing terms -/

/-- A node over the terms read so far. -/
def grow (kind : NodeKind) (operands : List Grown) : Except ParseError Grown :=
  (Grown.node kind operands).mapError .build

/-- A node as the reading of a rule that ends at a stream. -/
def finish (kind : NodeKind) (operands : List Grown) (stream : Stream) :
    Except ParseError (Grown × Stream) :=
  (grow kind operands).map (·, stream)

/-- The literal of a number text. -/
def numberLiteral (text : String) : Except ParseError Grown :=
  match numeral? text with
  | some number => grow (.literal (.number number)) []
  | none => .error (.invalidNumber text)

/-- The escape character of a pattern, if one is given. -/
def escapeClause (stream : Stream) : Except ParseError (Option Char × Stream) :=
  if stream.rest.head? = some (.keyword .escape) then
    match stream.advance.rest.head? with
    | some (.string text) =>
      match text.toList with
      | [c] => .ok (some c, stream.advance.advance)
      | _ => .error (.invalidEscape text)
    | _ => .error (stream.advance.unexpected .escapeCharacter)
  else .ok (none, stream)

/-- Negate a test that was written with `NOT`. -/
def negateIf (negated : Bool) (test : Except ParseError (Grown × Stream)) :
    Except ParseError (Grown × Stream) :=
  if negated then test.bind fun (test, stream) => finish .not [test] stream else test

/-! ## Chains and lists -/

/-- Go on with a chain of operands joined by operators of one precedence. -/
def chainFrom (operand : Rule) (operator? : Token → Option NodeKind) (left : Grown)
    (stream : Stream) : Except ParseError (Grown × Stream) :=
  match stream.rest.head?.bind operator? with
  | none => .ok (left, stream)
  | some kind =>
    match operand stream.advance with
    | .error error => .error error
    | .ok (right, next) =>
      match grow kind [left, right] with
      | .error error => .error error
      | .ok node =>
        if next.rest.length < stream.rest.length then chainFrom operand operator? node next
        else .ok (node, next)
termination_by stream.rest.length

/-- A chain of operands, leaning to the left. -/
def chain (operand : Rule) (operator? : Token → Option NodeKind) : Rule := fun stream =>
  (operand stream).bind fun (left, next) => chainFrom operand operator? left next

/-- A list of items separated by commas, of which there is at least one. -/
def items (item : Rule) (stream : Stream) : Except ParseError (List Grown × Stream) :=
  match item stream with
  | .error error => .error error
  | .ok (first, next) =>
    if next.rest.head? = some (.symbol .comma) ∧
        next.advance.rest.length < stream.rest.length then
      (items item next.advance).map fun (rest, behind) => (first :: rest, behind)
    else .ok ([first], next)
termination_by stream.rest.length

/-- A list in parentheses. -/
def listInParens (item : Rule) (stream : Stream) : Except ParseError (List Grown × Stream) := do
  let stream ← stream.expectSymbol .leftParen
  let (operands, stream) ← items item stream
  let stream ← stream.expectSymbol .rightParen
  pure (operands, stream)

/-! ## One level of nesting -/

/-- The rules that open a new level of nesting. -/
structure Nested where
  disjunction : Rule
  negation : Rule
  factor : Rule

/-- A primary. -/
def primary (inner : Nested) : Rule := fun stream =>
  match stream.rest.head? with
  | some (.number text) => (numberLiteral text).map (·, stream.advance)
  | some (.string text) => finish (.literal (.string text)) [] stream.advance
  | some (.keyword .true) => finish (.literal (.boolean true)) [] stream.advance
  | some (.keyword .false) => finish (.literal (.boolean false)) [] stream.advance
  | some (.identifier name) => finish (.property name) [] stream.advance
  | some (.keyword .any) => do
    let (operands, stream) ← listInParens inner.disjunction stream.advance
    finish .any operands stream
  | some (.symbol .leftParen) => do
    let (term, stream) ← inner.disjunction stream.advance
    let stream ← stream.expectSymbol .rightParen
    pure (term, stream)
  | _ => .error (stream.unexpected .expression)

/-- A factor. -/
def factor (inner : Nested) : Rule := fun stream =>
  match stream.rest.head? with
  | some (.symbol .plus) => inner.factor stream.advance
  | some (.symbol .minus) =>
    match stream.advance.rest.head? with
    | some (.number text) => (numberLiteral ("-" ++ text)).map (·, stream.advance.advance)
    | _ => do
      let (operand, stream) ← inner.factor stream.advance
      finish .negate [operand] stream
  | _ => primary inner stream

/-- A product. -/
def product (inner : Nested) : Rule :=
  chain (factor inner) productOperator?

/-- A sum. -/
def sum (inner : Nested) : Rule :=
  chain (product inner) sumOperator?

/-- What follows `IS`, possibly negated. -/
def truthTest (left : Grown) (negated : Bool) (stream : Stream) :
    Except ParseError (Grown × Stream) :=
  let against (b : Bool) : Except ParseError (Grown × Stream) := do
    let literal ← grow (.literal (.boolean b)) []
    finish (.compare (if negated then .ne else .eq)) [left, literal] stream.advance
  match stream.rest.head? with
  | some (.keyword .null) => negateIf negated (finish .isNull [left] stream.advance)
  | some (.keyword .true) => against true
  | some (.keyword .false) => against false
  | _ => .error (stream.unexpected .truthTest)

/-- What follows `BETWEEN`. -/
def between (inner : Nested) (value : Grown) : Rule := fun stream => do
  let (low, stream) ← sum inner stream
  let stream ← stream.expectKeyword .and
  let (high, stream) ← sum inner stream
  finish .between [value, low, high] stream

variable [Engine]

/-- The literal of a pattern, which has to compile. -/
def patternLiteral (pattern : Pattern) : Except ParseError Grown :=
  match pattern.compile with
  | .ok _ => grow (.literal (.pattern pattern)) []
  | .error message => .error (.build (.invalidPattern pattern.text message))

/-- What follows `LIKE`. -/
def likePattern (inner : Nested) : Rule := fun stream =>
  match stream.rest.head? with
  | some (.string text) => do
    let (escape, stream) ← escapeClause stream.advance
    (patternLiteral ⟨text, escape⟩).map (·, stream)
  | _ => sum inner stream

/-- A test whose left side has been read. -/
def testOf (inner : Nested) (left : Grown) : Rule := fun stream =>
  let negated := stream.rest.head? == some (.keyword .not)
  let start := if negated then stream.advance else stream
  match start.rest.head? with
  | some (.keyword .between) => negateIf negated (between inner left start.advance)
  | some (.keyword .inList) =>
    negateIf negated do
      let (operands, stream) ← listInParens inner.disjunction start.advance
      finish .inList (left :: operands) stream
  | some (.keyword .like) =>
    negateIf negated do
      let (pattern, stream) ← likePattern inner start.advance
      finish .like [left, pattern] stream
  | _ =>
    match stream.rest.head?.bind comparison? with
    | some operator => do
      let (right, stream) ← sum inner stream.advance
      finish (.compare operator) [left, right] stream
    | none => .ok (left, stream)

/-- A test. -/
def test (inner : Nested) : Rule := fun stream => do
  let (left, stream) ← sum inner stream
  if stream.rest.head? = some (.keyword .is) then
    let stream := stream.advance
    if stream.rest.head? = some (.keyword .not) then truthTest left true stream.advance
    else truthTest left false stream
  else testOf inner left stream

/-- A negation. -/
def negation (inner : Nested) : Rule := fun stream =>
  if stream.rest.head? = some (.keyword .not) then do
    let (operand, stream) ← inner.negation stream.advance
    finish .not [operand] stream
  else test inner stream

/-- A conjunction. -/
def conjunction (inner : Nested) : Rule :=
  chain (negation inner) (connective? .and)

/-- A disjunction. -/
def disjunction (inner : Nested) : Rule :=
  chain (conjunction inner) (connective? .or)

/-! ## All levels -/

/-- The rules that open a new level, when so many more may be opened. -/
def nested : Nat → Nested
  | 0 =>
    let refuse : Rule := fun _ => .error .tooDeep
    ⟨refuse, refuse, refuse⟩
  | levels + 1 =>
    let inner := nested levels
    ⟨disjunction inner, negation inner, factor inner⟩

/-- Read all tokens as one term. -/
def parseTokens (tokens : List Token) : Except ParseError Term := do
  let (grown, stream) ← (nested maxDepth).disjunction ⟨0, tokens⟩
  match stream.rest with
  | [] => pure grown.term
  | _ :: _ => .error (stream.unexpected .finish)

end Sift.Descent
