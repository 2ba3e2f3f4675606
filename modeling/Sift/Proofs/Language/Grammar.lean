import Sift.Language.Parser
import Sift.Proofs.Expression.Insertion

/-!
# The grammar of predicates

The grammar says which sequences of tokens are predicates and which term each of them means,
without saying how they are read (`Grammar.Derives`).  Its categories are ordered from the weakest
operators to the strongest.  A chain of operators of one category leans to the left.  Two rules are
narrower than they could be, so that nothing has two meanings: a quoted text right behind `LIKE` is
always a pattern, and a minus sign directly before a number belongs to the number.

A derivation has a number of levels that may still be opened.  Parentheses, the items of lists,
`NOT` and signs that are not part of a number open one each.
-/

set_option autoImplicit false

namespace Sift.Grammar

/-! ## Categories -/

/-- The parts of the grammar, from the weakest operators to the strongest. -/
inductive Category where
  | disjunction
  | conjunction
  | negation
  | test
  | sum
  | product
  | factor
  | primary
  deriving DecidableEq, Repr

/-- A category and the next stronger one, whose members belong to it as they are. -/
inductive Category.Includes : Category → Category → Prop where
  | disjunction : Includes .disjunction .conjunction
  | conjunction : Includes .conjunction .negation
  | negation : Includes .negation .test
  | test : Includes .test .sum
  | sum : Includes .sum .product
  | product : Includes .product .factor
  | factor : Includes .factor .primary

/-- The operators of chains and the terms they make. -/
inductive Joins : Category → Token → (Term → Term → Term) → Prop where
  | or : Joins .disjunction (.keyword .or) (.connect .or)
  | and : Joins .conjunction (.keyword .and) (.connect .and)
  | add : Joins .sum (.symbol .plus) (.arithmetic .add)
  | subtract : Joins .sum (.symbol .minus) (.arithmetic .subtract)
  | multiply : Joins .product (.symbol .star) (.arithmetic .multiply)
  | divide : Joins .product (.symbol .slash) (.arithmetic .divide)
  | modulus : Joins .product (.symbol .percent) (.arithmetic .modulus)

/-! ## Words and lists -/

/-- The symbol of a comparison. -/
def symbolOf : Comparison → Symbol
  | .eq => .equal
  | .ne => .notEqual
  | .lt => .less
  | .gt => .greater
  | .le => .lessEqual
  | .ge => .greaterEqual

/-- The word for a truth value. -/
def truthWord (b : Bool) : Token :=
  .keyword (if b then .true else .false)

/-- The word `NOT` if something is negated. -/
def notIf (negated : Bool) : List Token :=
  if negated then [.keyword .not] else []

/-- The negation of a test if it is negated. -/
def negatedIf (negated : Bool) (test : Term) : Term :=
  if negated then .not test else test

/-- Items with commas between them. -/
def separated : List (List Token) → List Token
  | [] => []
  | [item] => item
  | item :: next :: rest => item ++ .symbol .comma :: separated (next :: rest)

/-- A list in parentheses. -/
def listed (items : List (List Token)) : List Token :=
  .symbol .leftParen :: (separated items ++ [.symbol .rightParen])

/-- The number that a text writes.  With a point or an exponent it is a float; an integer has to fit
into 64 bits. -/
inductive Writes (text : String) : Numeral → Prop where
  | integer {n : Int} (plain : ∀ c ∈ text.toList, c ≠ '.' ∧ c ≠ 'e' ∧ c ≠ 'E')
    (read : Number.readInt? text.toList = some n) (low : Int64.minValue.toInt ≤ n)
    (high : n ≤ Int64.maxValue.toInt) : Writes text (.integer (Int64.ofInt n))
  | float {x : Float} (marked : ∃ c ∈ text.toList, c = '.' ∨ c = 'e' ∨ c = 'E')
    (read : Number.readFloat? text.toList = some x) : Writes text (.float x)

/-- An escape clause gives one character, or there is none. -/
inductive Escapes : List Token → Option Char → Prop where
  | none : Escapes [] none
  | single {text : String} {c : Char} (one : text.toList = [c]) :
    Escapes [.keyword .escape, .string text] (some c)

/-- The parser reads a number text as the number that it writes. -/
theorem writes_iff {text : String} {number : Numeral} :
    Writes text number ↔ Parser.numeral? text = some number := by
  have marked : (text.toList.any fun c => c == '.' || c == 'e' || c == 'E') = true ↔
      ∃ c ∈ text.toList, c = '.' ∨ c = 'e' ∨ c = 'E' := by
    simp [or_assoc]
  have plain : (¬∃ c ∈ text.toList, c = '.' ∨ c = 'e' ∨ c = 'E') ↔
      ∀ c ∈ text.toList, c ≠ '.' ∧ c ≠ 'e' ∧ c ≠ 'E' := by
    simp
  unfold Parser.numeral?
  constructor
  · rintro (⟨isPlain, read, low, high⟩ | ⟨isMarked, read⟩)
    · rw [if_neg (mt marked.1 (plain.2 isPlain)), Number.readInt64?, read, Option.bind_some,
        Number.int64?, if_pos ⟨low, high⟩]
      rfl
    · rw [if_pos (marked.2 isMarked), read]
      rfl
  · intro found
    dsimp only at found
    split_ifs at found with isMarked
    · obtain ⟨x, read, rfl⟩ := Option.map_eq_some_iff.1 found
      exact .float (marked.1 isMarked) read
    · obtain ⟨_, readSmall, rfl⟩ := Option.map_eq_some_iff.1 found
      obtain ⟨n, read, small⟩ := Option.bind_eq_some_iff.1 readSmall
      unfold Number.int64? at small
      split_ifs at small with range
      obtain rfl := Option.some.inj small
      exact .integer (plain.1 (mt marked.2 isMarked)) read range.1 range.2

theorem proper_negatedIf {negated : Bool} {test : Term} (proper : test.Proper) :
    (negatedIf negated test).Proper := by
  cases negated with
  | false => exact proper
  | true => exact .node rfl (List.forall_mem_singleton.2 proper)

/-! ## First tokens -/

/-- The tokens that a primary can begin with. -/
def opensPrimary : Token → Bool
  | .number _ | .string _ | .identifier _ => true
  | .keyword .true | .keyword .false | .keyword .any => true
  | .symbol .leftParen => true
  | _ => false

/-- The tokens that a category can begin with. -/
def Category.opens : Category → Token → Bool
  | .primary, token => opensPrimary token
  | .factor, token | .product, token | .sum, token | .test, token =>
    opensPrimary token || token == .symbol .plus || token == .symbol .minus
  | .negation, token | .conjunction, token | .disjunction, token =>
    opensPrimary token || token == .symbol .plus || token == .symbol .minus ||
      token == .keyword .not

theorem Category.Includes.opens {category part : Category} (includes : category.Includes part)
    {token : Token} (opens : part.opens token = true) : category.opens token = true := by
  cases includes <;> simp_all [Category.opens]

/-! ## Derivations -/

variable [Engine]

/-- The tokens of a category with the term that they mean, when so many levels may be opened. -/
inductive Derives : Nat → Category → List Token → Term → Prop where
  | alone {levels category part tokens term} (includes : Category.Includes category part)
    (derives : Derives levels part tokens term) : Derives levels category tokens term
  | chain {levels category part tokens tokens' token left right make}
    (includes : Category.Includes category part) (joins : Joins category token make)
    (first : Derives levels category tokens left) (second : Derives levels part tokens' right) :
    Derives levels category (tokens ++ token :: tokens') (make left right)
  | not {levels tokens term} (operand : Derives levels .negation tokens term) :
    Derives (levels + 1) .negation (.keyword .not :: tokens) (.not term)
  | isNull {levels tokens term} (negated : Bool) (operand : Derives levels .sum tokens term) :
    Derives levels .test (tokens ++ .keyword .is :: (notIf negated ++ [.keyword .null]))
      (negatedIf negated (.isNull term))
  | isTruth {levels tokens term} (negated b : Bool) (operand : Derives levels .sum tokens term) :
    Derives levels .test (tokens ++ .keyword .is :: (notIf negated ++ [truthWord b]))
      (.compare (if negated then .ne else .eq) term (.literal (.boolean b)))
  | between {levels tokens lowTokens highTokens value low high} (negated : Bool)
    (first : Derives levels .sum tokens value) (second : Derives levels .sum lowTokens low)
    (third : Derives levels .sum highTokens high) :
    Derives levels .test
      (tokens ++ (notIf negated ++
        .keyword .between :: (lowTokens ++ .keyword .and :: highTokens)))
      (negatedIf negated (.between value low high))
  | inList {levels tokens value} (negated : Bool) (parts : List (List Token × Term))
    (some : parts ≠ []) (first : Derives (levels + 1) .sum tokens value)
    (items : ∀ part ∈ parts, Derives levels .disjunction part.1 part.2) :
    Derives (levels + 1) .test
      (tokens ++ (notIf negated ++ .keyword .inList :: listed (parts.map Prod.fst)))
      (negatedIf negated (.inList value (parts.map Prod.snd)))
  | likeText {levels tokens subject text clause escape} (negated : Bool)
    (first : Derives levels .sum tokens subject) (escapes : Escapes clause escape)
    (compiles : ∃ test, Pattern.compile ⟨text, escape⟩ = .ok test) :
    Derives levels .test (tokens ++ (notIf negated ++ .keyword .like :: .string text :: clause))
      (negatedIf negated (.like subject (.literal (.pattern ⟨text, escape⟩))))
  | like {levels tokens tokens' subject pattern} (negated : Bool)
    (first : Derives levels .sum tokens subject) (second : Derives levels .sum tokens' pattern)
    (noText : ∀ text, tokens'.head? ≠ some (.string text)) :
    Derives levels .test (tokens ++ (notIf negated ++ .keyword .like :: tokens'))
      (negatedIf negated (.like subject pattern))
  | compare {levels tokens tokens' left right} (operator : Comparison)
    (first : Derives levels .sum tokens left) (second : Derives levels .sum tokens' right) :
    Derives levels .test (tokens ++ .symbol (symbolOf operator) :: tokens')
      (.compare operator left right)
  | plus {levels tokens term} (operand : Derives levels .factor tokens term) :
    Derives (levels + 1) .factor (.symbol .plus :: tokens) term
  | minus {levels tokens term} (operand : Derives levels .factor tokens term)
    (noNumber : ∀ text, tokens.head? ≠ some (.number text)) :
    Derives (levels + 1) .factor (.symbol .minus :: tokens) (.negate term)
  | minusNumber {levels text number} (writes : Writes ("-" ++ text) number) :
    Derives levels .factor [.symbol .minus, .number text] (.literal (.number number))
  | number {levels text number} (writes : Writes text number) :
    Derives levels .primary [.number text] (.literal (.number number))
  | string {levels text} : Derives levels .primary [.string text] (.literal (.string text))
  | truth {levels} (b : Bool) : Derives levels .primary [truthWord b] (.literal (.boolean b))
  | property {levels name} : Derives levels .primary [.identifier name] (.property name)
  | any {levels} (parts : List (List Token × Term)) (some : parts ≠ [])
    (items : ∀ part ∈ parts, Derives levels .disjunction part.1 part.2) :
    Derives (levels + 1) .primary (.keyword .any :: listed (parts.map Prod.fst))
      (.any (parts.map Prod.snd))
  | parens {levels tokens term} (inside : Derives levels .disjunction tokens term) :
    Derives (levels + 1) .primary (.symbol .leftParen :: (tokens ++ [.symbol .rightParen])) term

/-! ## What derivations have in common -/

/-- A term that is derived has no empty lists. -/
theorem Derives.proper {levels : Nat} {category : Category} {tokens : List Token} {term : Term}
    (derives : Derives levels category tokens term) : term.Proper := by
  have leaf {content : Literal} : (Term.literal content).Proper := .node rfl (List.forall_mem_nil _)
  have two {term left right : Term} (fits : term.kind.arity.accepts term.operands.length = true)
      (operands : term.operands = [left, right]) (first : left.Proper) (second : right.Proper) :
      term.Proper := by
    refine .node fits ?_
    rw [operands]
    exact List.forall_mem_cons.2 ⟨first, List.forall_mem_singleton.2 second⟩
  induction derives with
  | alone _ _ ih => exact ih
  | chain _ joins _ _ first second => cases joins <;> exact two rfl rfl first second
  | not _ ih => exact .node rfl (List.forall_mem_singleton.2 ih)
  | isNull _ _ ih => exact proper_negatedIf (.node rfl (List.forall_mem_singleton.2 ih))
  | isTruth _ _ _ ih => exact two rfl rfl ih leaf
  | between _ _ _ _ value low high =>
    refine proper_negatedIf (.node rfl (List.forall_mem_cons.2 ⟨value, ?_⟩))
    exact List.forall_mem_cons.2 ⟨low, List.forall_mem_singleton.2 high⟩
  | inList _ parts _ _ _ value items =>
    refine proper_negatedIf (.node ?_ (List.forall_mem_cons.2 ⟨value, List.forall_mem_map.2 items⟩))
    simp [Term.kind, Term.operands, NodeKind.arity, Arity.accepts]
  | likeText _ _ _ _ subject => exact proper_negatedIf (two rfl rfl subject leaf)
  | like _ _ _ _ subject pattern => exact proper_negatedIf (two rfl rfl subject pattern)
  | compare _ _ _ left right => exact two rfl rfl left right
  | plus _ ih => exact ih
  | minus _ _ ih => exact .node rfl (List.forall_mem_singleton.2 ih)
  | minusNumber _ | number _ | string | truth _ => exact leaf
  | property => exact .node rfl (List.forall_mem_nil _)
  | any parts some _ items =>
    refine .node ?_ (List.forall_mem_map.2 items)
    have := List.length_pos_iff.2 some
    simp [Term.kind, Term.operands, NodeKind.arity, Arity.accepts]
    omega
  | parens _ ih => exact ih

/-- What is derived is derived as well if more levels may be opened. -/
theorem Derives.mono {levels levels' : Nat} {category : Category} {tokens : List Token}
    {term : Term} (derives : Derives levels category tokens term) (more : levels ≤ levels') :
    Derives levels' category tokens term := by
  induction derives generalizing levels' with
  | alone includes _ ih => exact .alone includes (ih more)
  | chain includes joins _ _ first second => exact .chain includes joins (first more) (second more)
  | isNull negated _ ih => exact .isNull negated (ih more)
  | isTruth negated b _ ih => exact .isTruth negated b (ih more)
  | between negated _ _ _ value low high =>
    exact .between negated (value more) (low more) (high more)
  | likeText negated _ escapes compiles ih => exact .likeText negated (ih more) escapes compiles
  | like negated _ _ noText subject pattern =>
    exact .like negated (subject more) (pattern more) noText
  | compare operator _ _ left right => exact .compare operator (left more) (right more)
  | minusNumber writes => exact .minusNumber writes
  | number writes => exact .number writes
  | string => exact .string
  | truth b => exact .truth b
  | property => exact .property
  -- the others open a level, so there is one to be opened
  | not _ ih =>
    obtain ⟨extra, rfl⟩ := Nat.exists_eq_add_of_lt more
    exact .not (ih (Nat.le_of_succ_le_succ more))
  | plus _ ih =>
    obtain ⟨extra, rfl⟩ := Nat.exists_eq_add_of_lt more
    exact .plus (ih (Nat.le_of_succ_le_succ more))
  | minus _ noNumber ih =>
    obtain ⟨extra, rfl⟩ := Nat.exists_eq_add_of_lt more
    exact .minus (ih (Nat.le_of_succ_le_succ more)) noNumber
  | inList negated parts some _ _ value items =>
    obtain ⟨extra, rfl⟩ := Nat.exists_eq_add_of_lt more
    exact .inList negated parts some (value more) fun part member =>
      items part member (Nat.le_of_succ_le_succ more)
  | any parts some _ items =>
    obtain ⟨extra, rfl⟩ := Nat.exists_eq_add_of_lt more
    exact .any parts some fun part member => items part member (Nat.le_of_succ_le_succ more)
  | parens _ ih =>
    obtain ⟨extra, rfl⟩ := Nat.exists_eq_add_of_lt more
    exact .parens (ih (Nat.le_of_succ_le_succ more))

/-- What is derived is not empty, and begins with a token that the category can begin with. -/
theorem Derives.opens {levels : Nat} {category : Category} {tokens : List Token} {term : Term}
    (derives : Derives levels category tokens term) :
    ∃ token ∈ tokens.head?, category.opens token = true := by
  have front {category : Category} {tokens : List Token} (more : List Token)
      (opens : ∃ token ∈ tokens.head?, category.opens token = true) :
      ∃ token ∈ (tokens ++ more).head?, category.opens token = true := by
    obtain ⟨token, first, opens⟩ := opens
    exact ⟨token, by rw [List.head?_append, Option.mem_def.1 first]; rfl, opens⟩
  induction derives with
  | alone includes _ ih =>
    obtain ⟨token, first, opens⟩ := ih
    exact ⟨token, first, includes.opens opens⟩
  | chain _ _ _ _ ih => exact front _ ih
  | not | plus | minus | minusNumber | number | string | property | any | parens =>
    exact ⟨_, rfl, rfl⟩
  | truth b => cases b <;> exact ⟨_, rfl, rfl⟩
  | isNull _ _ ih | isTruth _ _ _ ih | between _ _ _ _ ih | inList _ _ _ _ _ ih
  | likeText _ _ _ _ ih | like _ _ _ _ ih | compare _ _ _ ih => exact front _ ih

end Sift.Grammar
