import Mathlib
import Sift.Proofs.Language.Grammar
import Sift.Proofs.Pattern.Like

/-!
# The languages of the grammar

With nothing said about how deep a predicate nests and how large a pattern is, each category of the
grammar is a language (`phrases`), and its productions are laws for products of languages.  What may
follow a phrase of one category so that the two make one of another is the residual of the two
(`after`); that is how tests and chains are told, whose first operand is read before anything shows
what it is part of.
-/

set_option autoImplicit false

namespace Sift.Grammar

/-! ## Products and residuals -/

/-- The language of a single token. -/
def word (token : Token) : Language Token :=
  {[token]}

/-- What makes words of one language into words of another when it stands behind them. -/
def after (first whole : Language Token) : Language Token :=
  {rest | ∀ words ∈ first, words ++ rest ∈ whole}

theorem le_after_iff {first rest whole : Language Token} :
    rest ≤ after first whole ↔ first * rest ≤ whole := by
  constructor
  · rintro below _ ⟨words, isFirst, more, isRest, rfl⟩
    exact below isRest words isFirst
  · exact fun below more isRest words isFirst => below (Language.append_mem_mul isFirst isRest)

theorem mul_after_le (first whole : Language Token) : first * after first whole ≤ whole :=
  le_after_iff.1 le_rfl

theorem nil_mem_after {first whole : Language Token} (below : first ≤ whole) :
    [] ∈ after first whole := by
  intro words isFirst
  rw [List.append_nil]
  exact below isFirst

theorem nonempty_mul {first rest : Language Token} (some : ∃ words, words ∈ first)
    (more : ∃ words, words ∈ rest) : ∃ words, words ∈ first * rest := by
  obtain ⟨words, isFirst⟩ := some
  obtain ⟨words', isRest⟩ := more
  exact ⟨words ++ words', Language.append_mem_mul isFirst isRest⟩

theorem nonempty_word (token : Token) : ∃ words, words ∈ word token :=
  ⟨[token], rfl⟩

/-- At least one word of a language, with commas between them. -/
def commaLists (item : Language Token) : Language Token :=
  {words | ∃ parts, parts ≠ [] ∧ (∀ part ∈ parts, part ∈ item) ∧ words = separated parts}

theorem item_le_commaLists (item : Language Token) : item ≤ commaLists item :=
  fun words isItem => ⟨[words], List.cons_ne_nil _ _, List.forall_mem_singleton.2 isItem, rfl⟩

theorem mul_commaLists_le (item : Language Token) :
    item * (word (.symbol .comma) * commaLists item) ≤ commaLists item := by
  rintro _ ⟨first, isItem, _, ⟨_, rfl, _, ⟨parts, some, areItems, rfl⟩, rfl⟩, rfl⟩
  refine ⟨first :: parts, List.cons_ne_nil _ _, List.forall_mem_cons.2 ⟨isItem, areItems⟩, ?_⟩
  obtain ⟨next, rest, rfl⟩ := List.exists_cons_of_ne_nil some
  rfl

/-- A list in parentheses. -/
def lists (item : Language Token) : Language Token :=
  word (.symbol .leftParen) * (commaLists item * word (.symbol .rightParen))

/-! ## Phrases -/

-- an engine that compiles every pattern
attribute [local instance] Engine.direct

/-- The phrases of a category: what can be derived if any number of levels may be opened and every
pattern compiles. -/
def phrases (category : Category) : Language Token :=
  {tokens | ∃ levels term, Derives levels category tokens term}

theorem phrases_of_derives {category : Category} {tokens : List Token} {levels : Nat} {term : Term}
    (derives : Derives levels category tokens term) : tokens ∈ phrases category :=
  ⟨levels, term, derives⟩

/-- Two phrases can be derived with one number of levels. -/
theorem exists_common {category category' : Category} {tokens tokens' : List Token}
    (first : tokens ∈ phrases category) (second : tokens' ∈ phrases category') :
    ∃ levels term term', Derives levels category tokens term ∧
      Derives levels category' tokens' term' := by
  obtain ⟨levels, term, derives⟩ := first
  obtain ⟨levels', term', derives'⟩ := second
  exact ⟨max levels levels', term, term', derives.mono (le_max_left ..),
    derives'.mono (le_max_right ..)⟩

/-- So can all phrases of a list. -/
theorem exists_common_list {category : Category} {parts : List (List Token)}
    (arePhrases : ∀ part ∈ parts, part ∈ phrases category) :
    ∃ levels pairs, parts = List.map Prod.fst pairs ∧
      ∀ pair ∈ pairs, Derives levels category pair.1 pair.2 := by
  induction parts with
  | nil => exact ⟨0, [], rfl, nofun⟩
  | cons part rest ih =>
    obtain ⟨isPhrase, arePhrases⟩ := List.forall_mem_cons.1 arePhrases
    obtain ⟨levels, term, derives⟩ := isPhrase
    obtain ⟨levels', pairs, rfl, derive⟩ := ih arePhrases
    refine ⟨max levels levels', (part, term) :: pairs, rfl, List.forall_mem_cons.2 ⟨?_, ?_⟩⟩
    · exact derives.mono (le_max_left ..)
    · exact fun pair member => (derive pair member).mono (le_max_right ..)

theorem phrases_alone {category part : Category} (includes : category.Includes part) :
    phrases part ≤ phrases category := by
  rintro tokens ⟨levels, term, derives⟩
  exact phrases_of_derives (.alone includes derives)

theorem phrases_chain {category part : Category} {token : Token} {make : Term → Term → Term}
    (includes : category.Includes part) (joins : Joins category token make) :
    phrases category * (word token * phrases part) ≤ phrases category := by
  rintro _ ⟨tokens, first, _, ⟨_, rfl, tokens', second, rfl⟩, rfl⟩
  obtain ⟨levels, left, right, derives, derives'⟩ := exists_common first second
  exact phrases_of_derives (.chain includes joins derives derives')

theorem phrases_not :
    word (.keyword .not) * phrases .negation ≤ phrases .negation := by
  rintro _ ⟨_, rfl, tokens, ⟨levels, term, derives⟩, rfl⟩
  exact phrases_of_derives (.not derives)

/-! ### Primaries and factors -/

theorem phrases_number {text : String} {number : Numeral} (writes : Writes text number) :
    [.number text] ∈ phrases .primary :=
  ⟨0, _, .number writes⟩

theorem phrases_string (text : String) : [.string text] ∈ phrases .primary :=
  ⟨0, _, .string⟩

theorem phrases_truth (b : Bool) : [truthWord b] ∈ phrases .primary :=
  ⟨0, _, .truth b⟩

theorem phrases_property (name : String) : [.identifier name] ∈ phrases .primary :=
  ⟨0, _, .property⟩

theorem phrases_any :
    word (.keyword .any) * lists (phrases .disjunction) ≤ phrases .primary := by
  rintro _ ⟨_, rfl, _, ⟨_, rfl, _, ⟨_, ⟨parts, some, arePhrases, rfl⟩, _, rfl, rfl⟩, rfl⟩, rfl⟩
  obtain ⟨levels, pairs, rfl, derive⟩ := exists_common_list arePhrases
  exact phrases_of_derives (.any pairs (mt (congrArg (List.map Prod.fst)) some) derive)

theorem phrases_parens :
    word (.symbol .leftParen) * (phrases .disjunction * word (.symbol .rightParen)) ≤
      phrases .primary := by
  rintro _ ⟨_, rfl, _, ⟨tokens, ⟨levels, term, derives⟩, _, rfl, rfl⟩, rfl⟩
  exact phrases_of_derives (.parens derives)

theorem phrases_plus : word (.symbol .plus) * phrases .factor ≤ phrases .factor := by
  rintro _ ⟨_, rfl, tokens, ⟨levels, term, derives⟩, rfl⟩
  exact phrases_of_derives (.plus derives)

theorem phrases_minus {tokens : List Token} (operand : tokens ∈ phrases .factor)
    (noNumber : ∀ text, tokens.head? ≠ some (.number text)) :
    .symbol .minus :: tokens ∈ phrases .factor := by
  obtain ⟨levels, term, derives⟩ := operand
  exact phrases_of_derives (.minus derives noNumber)

theorem phrases_minusNumber {text : String} {number : Numeral}
    (writes : Writes ("-" ++ text) number) :
    [.symbol .minus, .number text] ∈ phrases .factor :=
  ⟨0, _, .minusNumber writes⟩

/-- A name belongs to every category, so none of them is empty. -/
theorem phrases_name (name : String) (category : Category) :
    [.identifier name] ∈ phrases category := by
  have factor := phrases_alone .factor (phrases_property name)
  have sum := phrases_alone .sum (phrases_alone .product factor)
  have negation := phrases_alone .negation (phrases_alone .test sum)
  have conjunction := phrases_alone .conjunction negation
  cases category with
  | primary => exact phrases_property name
  | factor => exact factor
  | product => exact phrases_alone .product factor
  | sum => exact sum
  | test => exact phrases_alone .test sum
  | negation => exact negation
  | conjunction => exact conjunction
  | disjunction => exact phrases_alone .disjunction conjunction

theorem nonempty_phrases (category : Category) : ∃ tokens, tokens ∈ phrases category :=
  ⟨_, phrases_name "a" category⟩

/-! ### Tests -/

/-- What stands behind `IS` and `IS NOT`. -/
def truths : Language Token :=
  {words | words = [.keyword .null] ∨ ∃ b, words = [truthWord b]}

/-- An escape clause, or nothing. -/
def escapeClauses : Language Token :=
  {words | ∃ escape, Escapes words escape}

/-- What stands behind `LIKE`: a text with its escape clause, or a sum that begins with no text. -/
def likeOperands : Language Token :=
  {words | (∃ text, words ∈ word (.string text) * escapeClauses) ∨
    words ∈ phrases .sum ∧ ∀ text, words.head? ≠ some (.string text)}

/-- What stands behind the first sum of a test, or behind this and the `NOT` of a negated one. -/
def testTails (negated : Bool) : Language Token :=
  {words | notIf negated ++ words ∈ after (phrases .sum) (phrases .test)}

theorem not_mul_testTails_le : word (.keyword .not) * testTails true ≤ testTails false := by
  rintro _ ⟨_, rfl, words, isTail, rfl⟩
  exact isTail

theorem nil_mem_testTails : [] ∈ testTails false :=
  nil_mem_after (phrases_alone .test)

theorem is_mem_testTails (negated : Bool) {words : List Token} (isTruth : words ∈ truths) :
    .keyword .is :: (notIf negated ++ words) ∈ testTails false := by
  rintro tokens ⟨levels, term, derives⟩
  rcases isTruth with rfl | ⟨b, rfl⟩
  · exact phrases_of_derives (.isNull negated derives)
  · exact phrases_of_derives (.isTruth negated b derives)

theorem between_le_testTails (negated : Bool) :
    word (.keyword .between) * (phrases .sum * (word (.keyword .and) * phrases .sum)) ≤
      testTails negated := by
  rintro _ ⟨_, rfl, _, ⟨lowTokens, isLow, _, ⟨_, rfl, highTokens, isHigh, rfl⟩, rfl⟩, rfl⟩
  rintro tokens ⟨levels, value, derives⟩
  obtain ⟨levels', low, high, derivesLow, derivesHigh⟩ := exists_common isLow isHigh
  exact phrases_of_derives (.between negated (derives.mono (le_max_left levels levels'))
    (derivesLow.mono (le_max_right ..)) (derivesHigh.mono (le_max_right ..)))

theorem inList_le_testTails (negated : Bool) :
    word (.keyword .inList) * lists (phrases .disjunction) ≤ testTails negated := by
  rintro _ ⟨_, rfl, _, ⟨_, rfl, _, ⟨_, ⟨parts, some, arePhrases, rfl⟩, _, rfl, rfl⟩, rfl⟩, rfl⟩
  rintro tokens ⟨levels, value, derives⟩
  obtain ⟨levels', pairs, rfl, derive⟩ := exists_common_list arePhrases
  have enough : levels ≤ max levels levels' + 1 := Nat.le_succ_of_le (le_max_left ..)
  exact phrases_of_derives (.inList negated pairs (mt (congrArg (List.map Prod.fst)) some)
    (derives.mono enough) fun pair member => (derive pair member).mono (le_max_right ..))

/-- Nothing keeps a pattern from compiling. -/
theorem exists_compile (pattern : Pattern) :
    ∃ test, @Pattern.compile Engine.direct pattern = .ok test := by
  obtain ⟨test, compiled, _⟩ := Engine.standard_direct pattern.spells_regex trivial
  exact ⟨test, compiled⟩

theorem like_le_testTails (negated : Bool) :
    word (.keyword .like) * likeOperands ≤ testTails negated := by
  rintro _ ⟨_, rfl, words, isOperand, rfl⟩ tokens ⟨levels, subject, derives⟩
  rcases isOperand with ⟨text, _, rfl, clause, ⟨escape, escapes⟩, rfl⟩ | ⟨isSum, noText⟩
  · exact phrases_of_derives (.likeText negated derives escapes (exists_compile _))
  · obtain ⟨levels', pattern, derives'⟩ := isSum
    exact phrases_of_derives (.like negated (derives.mono (le_max_left levels levels'))
      (derives'.mono (le_max_right ..)) noText)

theorem compare_le_testTails (operator : Comparison) :
    word (.symbol (symbolOf operator)) * phrases .sum ≤ testTails false := by
  rintro _ ⟨_, rfl, tokens', isRight, rfl⟩ tokens isLeft
  obtain ⟨levels, left, right, derives, derives'⟩ := exists_common isLeft isRight
  exact phrases_of_derives (.compare operator derives derives')

end Sift.Grammar
