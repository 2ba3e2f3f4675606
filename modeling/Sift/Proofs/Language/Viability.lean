import Sift.Proofs.Language.Lines
import Sift.Proofs.Language.Phrases
import Sift.Proofs.Language.Progress
import Sift.Proofs.Language.Steps

/-!
# Where the parser gets stuck

Each rule of the parser recognizes the language of its category (`Parser.Recognizes`): what it has
read when it succeeds is a word of the language, and where it meets a token that it does not expect,
what it has read so far is the beginning of one.  A sequence of parts recognizes the product of
their languages, because a word of the later ones completes what an earlier one has begun.  So
whatever the rules are in the middle of, there is an end to all that has been begun, and the tokens
in front of an unexpected one begin some predicate (`Parser.parse_stuck`).
-/

set_option autoImplicit false

open Sift.Grammar

namespace Sift

/-- Whether an error is about a token that was not expected. -/
def ParseError.isUnexpected : ParseError → Bool
  | .unexpected .. => true
  | _ => false

namespace Parser

/-! ## Recognizing a language -/

/-- A run from a state has read a word of a language, or the beginning of one up to a token that was
not expected.  A run may also be refused for another reason. -/
inductive Recognized {α : Type} (language : Language Token) (state : State) :
    EStateM.Result ParseError State α → Prop where
  | ok {value : α} {next : State} {read : List Token} (isWord : read ∈ language)
    (reads : state.stream.Reads read next.stream) : Recognized language state (.ok value next)
  | stuck {next : State} {read : List Token} {expected : Expected} (more : List Token)
    (begins : read ++ more ∈ language) (reads : state.stream.Reads read next.stream) :
    Recognized language state (.error (next.stream.unexpected expected) next)
  | refused {error : ParseError} {next : State} (other : error.isUnexpected = false) :
    Recognized language state (.error error next)

/-- A part of the parser recognizes a language wherever it begins. -/
def Recognizes {α : Type} (language : Language Token) (part : Parsing α) : Prop :=
  ∀ state, Recognized language state (part state)

section Combinators

variable {α β : Type} {language language' whole : Language Token} {part : Parsing α}
  {state middle : State} {result : EStateM.Result ParseError State α}

/-- What has been read before may belong to a word of a larger language. -/
theorem Recognized.after {read : List Token} (recognized : Recognized language middle result)
    (reads : state.stream.Reads read middle.stream)
    (joined : ∀ words ∈ language, read ++ words ∈ whole) : Recognized whole state result := by
  cases recognized with
  | ok isWord reads' => exact .ok (joined _ isWord) (reads.trans reads')
  | stuck more begins reads' =>
    refine .stuck more ?_ (reads.trans reads')
    rw [List.append_assoc]
    exact joined _ begins
  | refused other => exact .refused other

theorem Recognized.mono (recognized : Recognized language state result)
    (below : language ≤ language') : Recognized language' state result :=
  recognized.after (.refl _) fun _ isWord => below isWord

theorem Recognizes.mono (recognizes : Recognizes language part) (below : language ≤ language') :
    Recognizes language' part :=
  fun state => (recognizes state).mono below

/-- **One part after another.**  What the first has begun is completed by any word of the other. -/
theorem Recognized.bind {rest : α → Parsing β} (first : Recognized language state (part state))
    (goesOn : ∀ value, Recognizes language' (rest value)) (some : ∃ words, words ∈ language') :
    Recognized (language * language') state ((part >>= rest) state) := by
  show Recognized _ _ (EStateM.bind part rest state)
  unfold EStateM.bind
  generalize part state = result at first
  cases first with
  | ok isWord reads =>
    exact (goesOn _ _).after reads fun _ isRest => Language.append_mem_mul isWord isRest
  | stuck more begins reads =>
    obtain ⟨words, isRest⟩ := some
    refine .stuck (more ++ words) ?_ reads
    rw [← List.append_assoc]
    exact Language.append_mem_mul begins isRest
  | refused other => exact .refused other

theorem Recognizes.bind {rest : α → Parsing β} (first : Recognizes language part)
    (goesOn : ∀ value, Recognizes language' (rest value)) (some : ∃ words, words ∈ language') :
    Recognizes (language * language') (part >>= rest) :=
  fun state => (first state).bind goesOn some

/-- A part that reads nothing more. -/
theorem Recognized.finish {rest : α → Parsing β} (first : Recognized language state (part state))
    (goesOn : ∀ value, Recognizes 1 (rest value)) :
    Recognized language state ((part >>= rest) state) :=
  mul_one language ▸ first.bind goesOn ⟨[], rfl⟩

theorem Recognizes.finish {rest : α → Parsing β} (first : Recognizes language part)
    (goesOn : ∀ value, Recognizes 1 (rest value)) : Recognizes language (part >>= rest) :=
  fun state => (first state).finish goesOn

/-- A token that is there is passed. -/
theorem Recognized.advance {token : Token} {rest : Unit → Parsing β}
    (head : state.stream.rest.head? = some token)
    (goesOn : Recognized language state.advance (rest () state.advance)) :
    Recognized (word token * language) state ((Parser.advance >>= rest) state) :=
  goesOn.after (Stream.reads_advance head) fun _ isWord => Language.append_mem_mul rfl isWord

/-- A token that is there is passed, and it is a word by itself. -/
theorem Recognized.single {token : Token} {rest : Unit → Parsing β}
    (head : state.stream.rest.head? = some token) (isWord : [token] ∈ language)
    (goesOn : Recognizes 1 (rest ())) :
    Recognized language state ((Parser.advance >>= rest) state) := by
  refine (goesOn state.advance).after (Stream.reads_advance head) ?_
  rintro _ rfl
  exact isWord

/-- The next token is none of some kind, so what is read does not begin with one either.  If nothing
has been read yet, a word that begins with something else is left to be read. -/
theorem Recognized.narrow (kind : String → Token) (recognized : Recognized language state result)
    (head : ∀ text, state.stream.rest.head? ≠ some (kind text)) {sample : List Token}
    (isWord : sample ∈ language) (other : ∀ text, sample.head? ≠ some (kind text)) :
    Recognized {words | words ∈ language ∧ ∀ text, words.head? ≠ some (kind text)} state
      result := by
  have front {read rest : List Token} (same : state.stream.rest = read ++ rest)
      (nonempty : read ≠ []) (more : List Token) :
      ∀ text, (read ++ more).head? ≠ some (kind text) := by
    obtain ⟨first, read, rfl⟩ := List.exists_cons_of_ne_nil nonempty
    rw [same] at head
    exact head
  cases recognized with
  | @ok _ next read isWord reads =>
    refine .ok ⟨isWord, ?_⟩ reads
    by_cases nothing : read = []
    · rw [nothing]
      exact nofun
    · exact List.append_nil read ▸ front reads.rest nothing []
  | @stuck next read expected more begins reads =>
    by_cases nothing : read = []
    · subst nothing
      refine .stuck sample ?_ reads
      exact ⟨isWord, other⟩
    · exact .stuck more ⟨begins, front reads.rest nothing more⟩ reads
  | refused other => exact .refused other

/-! ## Single tokens and nodes -/

theorem recognizes_pure (value : α) : Recognizes 1 (pure value) :=
  fun state => .ok rfl (.refl state.stream)

theorem recognizes_unexpected {sample : List Token} (isWord : sample ∈ language)
    (expected : Expected) : Recognizes language (unexpected expected : Parsing α) :=
  fun state => .stuck sample isWord (.refl state.stream)

theorem recognizes_node (kind : NodeKind) (children : List Nat) :
    Recognizes 1 (node kind children) := by
  intro state
  unfold node
  cases Builder.node kind children state.builder with
  | error error builder => exact .refused rfl
  | ok id builder => exact .ok rfl (.refl state.stream)

theorem recognizes_negateIf (negated : Bool) (test : Nat) :
    Recognizes 1 (negateIf negated test) := by
  cases negated with
  | false => exact recognizes_pure test
  | true => exact recognizes_node .not [test]

theorem recognizes_pattern [Engine] (pattern' : Pattern) : Recognizes 1 (pattern pattern') := by
  intro state
  unfold pattern
  cases pattern'.compile with
  | error message => exact .refused rfl
  | ok test => exact recognizes_node _ _ state

theorem recognizes_tooDeep : Recognizes language (fail .tooDeep : Parsing α) :=
  fun _ => .refused rfl

/-- A number is refused or is in the grammar. -/
theorem recognized_number {token : Token} (head : state.stream.rest.head? = some token)
    {text : String} (isWord : ∀ number, Writes text number → [token] ∈ language) :
    Recognized language state ((Parser.advance >>= fun _ => number text) state) := by
  unfold number
  cases found : numeral? text with
  | none => exact .refused rfl
  | some number => exact .single head (isWord number (writes_iff.2 found)) (recognizes_node _ _)

theorem recognizes_expectSymbol (symbol : Symbol) :
    Recognizes (word (.symbol symbol)) (expectSymbol symbol) := by
  intro state
  unfold expectSymbol expect Stream.expectSymbol
  dsimp only
  split_ifs with head
  · exact .ok rfl (Stream.reads_advance head)
  · exact .stuck [.symbol symbol] rfl (.refl state.stream)

theorem recognizes_expectKeyword (keyword : Keyword) :
    Recognizes (word (.keyword keyword)) (expectKeyword keyword) := by
  intro state
  unfold expectKeyword expect Stream.expectKeyword
  dsimp only
  split_ifs with head
  · exact .ok rfl (Stream.reads_advance head)
  · exact .stuck [.keyword keyword] rfl (.refl state.stream)

theorem recognizes_escapeClause : Recognizes escapeClauses escapeClause := by
  intro state
  unfold escapeClause
  rw [current_bind]
  split_ifs with head
  · refine (Recognized.advance head ?_).mono (mul_after_le _ _)
    have single (text : String) (c : Char) (one : text.toList = [c]) :
        [.string text] ∈ Grammar.after (word (.keyword .escape)) escapeClauses := by
      rintro _ rfl
      exact ⟨_, .single one⟩
    rw [current_bind]
    rcases head : state.advance.stream.rest.head? with _ | _ | _ | text | _ | _
    case some.string =>
      dsimp only
      rw [advance_bind]
      rcases one : text.toList with _ | ⟨c, _ | ⟨d, more⟩⟩
      · exact .refused rfl
      · exact .ok (single text c one) (Stream.reads_advance head)
      · exact .refused rfl
    all_goals exact recognizes_unexpected (single "!" '!' rfl) _ _
  · exact .ok ⟨none, .none⟩ (.refl state.stream)

end Combinators

/-! ## Chains and lists -/

section Chains

variable {operand : Rule}

theorem recognizes_chainFrom {category part : Category} {operator? : Token → Option NodeKind}
    (includes : category.Includes part) (operators : Operators category operator?)
    (recognizes : Recognizes (phrases part) operand) (left : Nat) :
    Recognizes (Grammar.after (phrases category) (phrases category))
      (chainFrom operand operator? left) := by
  have nothing : [] ∈ Grammar.after (phrases category) (phrases category) := nil_mem_after le_rfl
  intro state
  induction length : state.stream.rest.length using Nat.strongRecOn generalizing left state with
  | ind length ih =>
    subst length
    cases isOperator : state.stream.rest.head?.bind operator? with
    | none =>
      rw [chainFrom, isOperator]
      exact .ok nothing (.refl state.stream)
    | some kind =>
      obtain ⟨token, head, known⟩ := Option.bind_eq_some_iff.1 isOperator
      obtain ⟨make, joins, _⟩ := operators known
      rw [chainFrom_of_operator isOperator]
      have link : Recognized (word token * phrases part) state (link operand kind left state) :=
        .advance head ((recognizes.finish fun right => recognizes_node kind [left, right]) _)
      refine (link.bind (fun node => ?_) ⟨[], nothing⟩).mono ?_
      · intro next
        show Recognized _ next (if _ then _ else _)
        split_ifs with shorter
        · exact ih _ shorter node next rfl
        · exact .ok nothing (.refl next.stream)
      · rintro _ ⟨linked, isLink, more, goesOn, rfl⟩ words isPhrase
        rw [← List.append_assoc]
        exact goesOn _ (phrases_chain includes joins (Language.append_mem_mul isPhrase isLink))

theorem recognizes_chain {category part : Category} {operator? : Token → Option NodeKind}
    (includes : category.Includes part) (operators : Operators category operator?)
    (recognizes : Recognizes (phrases part) operand) :
    Recognizes (phrases category) (chain operand operator?) := by
  have first := recognizes.mono (phrases_alone includes)
  exact (first.bind (recognizes_chainFrom includes operators recognizes)
    ⟨[], nil_mem_after le_rfl⟩).mono (mul_after_le _ _)

theorem recognizes_items {language : Language Token} (recognizes : Recognizes language operand) :
    Recognizes (commaLists language) (items operand) := by
  intro state
  induction length : state.stream.rest.length using Nat.strongRecOn generalizing state with
  | ind length ih =>
    subst length
    rw [items_of_item]
    have nothing : [] ∈ Grammar.after language (commaLists language) :=
      nil_mem_after (item_le_commaLists language)
    refine ((recognizes state).bind (fun first => ?_) ⟨[], nothing⟩).mono (mul_after_le _ _)
    intro next
    show Recognized _ next (if _ then _ else _)
    split_ifs with more
    · have rest := (ih _ more.2 next.advance rfl).finish fun rest => recognizes_pure (first :: rest)
      refine rest.after (Stream.reads_advance more.1) fun words isList => ?_
      exact le_after_iff.2 (mul_commaLists_le language) (Language.append_mem_mul rfl isList)
    · exact .ok nothing (.refl next.stream)

theorem recognizes_listInParens {language : Language Token}
    (recognizes : Recognizes language operand) (some : ∃ words, words ∈ language) :
    Recognizes (lists language) (listInParens operand) := by
  have close (ids : List Nat) : Recognizes (word (.symbol .rightParen))
      (expectSymbol .rightParen >>= fun _ => pure ids) :=
    (recognizes_expectSymbol .rightParen).finish fun _ => recognizes_pure ids
  have someList : ∃ words, words ∈ commaLists language :=
    some.imp fun _ isItem => item_le_commaLists language isItem
  exact (recognizes_expectSymbol .leftParen).bind
    (fun _ => (recognizes_items recognizes).bind close (nonempty_word _))
    (nonempty_mul someList (nonempty_word _))

end Chains

/-! ## The rules of one level -/

/-- The rules that open a new level recognize their categories. -/
structure RecognizesBelow (inner : Nested) : Prop where
  disjunction : Recognizes (phrases .disjunction) inner.disjunction
  negation : Recognizes (phrases .negation) inner.negation
  factor : Recognizes (phrases .factor) inner.factor

section Level

variable {inner : Nested} (below : RecognizesBelow inner)
include below

theorem recognizes_disjunctions :
    Recognizes (lists (phrases .disjunction)) (listInParens inner.disjunction) :=
  recognizes_listInParens below.disjunction (nonempty_phrases _)

theorem recognizes_primary : Recognizes (phrases .primary) (primary inner) := by
  intro state
  have stuck : Recognized (phrases .primary) state ((unexpected .expression : Rule) state) :=
    recognizes_unexpected (phrases_property "a") .expression state
  unfold primary
  rw [current_bind]
  rcases head : state.stream.rest.head? with _ | name | text | text | keyword | mark
  · exact stuck
  · exact .single head (phrases_property name) (recognizes_node _ _)
  · exact recognized_number head fun number writes => phrases_number writes
  · exact .single head (phrases_string text) (recognizes_node _ _)
  · cases keyword with
    | true => exact .single head (phrases_truth true) (recognizes_node _ _)
    | false => exact .single head (phrases_truth false) (recognizes_node _ _)
    | any =>
      have list := (recognizes_disjunctions below).finish fun operands =>
        recognizes_node .any operands
      exact (Recognized.advance head (list _)).mono phrases_any
    | _ => exact stuck
  · cases mark with
    | leftParen =>
      have close (id : Nat) : Recognizes (word (.symbol .rightParen))
          (expectSymbol .rightParen >>= fun _ => pure id) :=
        (recognizes_expectSymbol .rightParen).finish fun _ => recognizes_pure id
      have inside := below.disjunction.bind close (nonempty_word _)
      exact (Recognized.advance head (inside _)).mono phrases_parens
    | _ => exact stuck

theorem recognizes_factor : Recognizes (phrases .factor) (factor inner) := by
  intro state
  have primary := (recognizes_primary below state).mono (phrases_alone .factor)
  unfold factor
  rw [current_bind]
  rcases head : state.stream.rest.head? with _ | _ | _ | _ | _ | mark
  case some.symbol =>
    cases mark with
    | plus => exact (Recognized.advance head (below.factor _)).mono phrases_plus
    | minus =>
      refine (Recognized.advance head ?_).mono (mul_after_le _ (phrases .factor))
      rw [current_bind]
      -- a number would belong to the sign, so the operand begins with something else
      have negate (noNumber : ∀ text, state.advance.stream.rest.head? ≠ some (.number text)) :
          Recognized (Grammar.after (word (.symbol .minus)) (phrases .factor)) state.advance
            ((inner.factor >>= fun operand => node .negate [operand]) state.advance) := by
        have operand := (below.factor.finish fun operand => recognizes_node .negate [operand])
          state.advance
        refine (operand.narrow .number noNumber (phrases_name "a" .factor) (by simp)).mono ?_
        rintro words ⟨isFactor, noNumber⟩ _ rfl
        exact phrases_minus isFactor noNumber
      rcases head : state.advance.stream.rest.head? with _ | _ | text | _ | _ | _
      case some.number =>
        refine recognized_number head fun number writes => ?_
        rintro _ rfl
        exact phrases_minusNumber writes
      all_goals exact negate (head ▸ nofun)
    | _ => exact primary
  all_goals exact primary

theorem recognizes_sum : Recognizes (phrases .sum) (sum inner) :=
  recognizes_chain .sum operators_sum
    (recognizes_chain .product operators_product (recognizes_factor below))

/-! ## Tests -/

omit below in
theorem recognizes_truthTest (left : Nat) (negated : Bool) :
    Recognizes truths (truthTest left negated) := by
  intro state
  have stuck : Recognized truths state ((unexpected .truthTest : Rule) state) :=
    recognizes_unexpected (.inl rfl) .truthTest state
  unfold truthTest
  rw [current_bind]
  rcases head : state.stream.rest.head? with _ | _ | _ | _ | keyword | _
  case some.keyword =>
    cases keyword with
    | null =>
      exact .single head (.inl rfl) ((recognizes_node .isNull [left]).finish fun test =>
        recognizes_negateIf negated test)
    | true =>
      exact .single head (.inr ⟨true, rfl⟩) ((recognizes_node _ _).finish fun literal =>
        recognizes_node _ _)
    | false =>
      exact .single head (.inr ⟨false, rfl⟩) ((recognizes_node _ _).finish fun literal =>
        recognizes_node _ _)
    | _ => exact stuck
  all_goals exact stuck

theorem recognizes_between (value : Nat) :
    Recognizes (phrases .sum * (word (.keyword .and) * phrases .sum)) (between inner value) := by
  have high (low : Nat) : Recognizes (phrases .sum)
      (sum inner >>= fun high => node .between [value, low, high]) :=
    (recognizes_sum below).finish fun high => recognizes_node .between [value, low, high]
  have some := nonempty_phrases .sum
  exact (recognizes_sum below).bind
    (fun low => (recognizes_expectKeyword .and).bind (fun _ => high low) some)
    (nonempty_mul (nonempty_word _) some)

variable [Engine]

theorem recognizes_likePattern : Recognizes likeOperands (likePattern inner) := by
  intro state
  -- a text would be a pattern, so the sum begins with something else
  have computed (noText : ∀ text, state.stream.rest.head? ≠ some (.string text)) :
      Recognized likeOperands state (sum inner state) :=
    ((recognizes_sum below state).narrow .string noText (phrases_name "a" .sum) (by simp)).mono
      fun words computed => .inr computed
  unfold likePattern
  rw [current_bind]
  rcases head : state.stream.rest.head? with _ | _ | _ | text | _ | _
  case some.string =>
    have clause := recognizes_escapeClause.finish fun escape => recognizes_pattern ⟨text, escape⟩
    exact (Recognized.advance head (clause _)).mono fun words isPattern => .inl ⟨text, isPattern⟩
  all_goals exact computed (head ▸ nofun)

omit below [Engine] in
/-- `NOT` is passed where it negates a test, and only there. -/
theorem recognizes_skipNegation {rest : Bool → Rule} (languages : Bool → Language Token)
    (joined : word (.keyword .not) * languages true ≤ languages false)
    (goesOn : ∀ (negated : Bool) (state : State),
      (negated = true → ∃ keyword ∈ [Keyword.between, .inList, .like],
        state.stream.rest.head? = some (.keyword keyword)) →
      Recognized (languages negated) state (rest negated state)) :
    Recognizes (languages false) (skipNegation >>= rest) := by
  intro state
  rw [skipNegation_bind]
  split_ifs with negates
  · unfold Stream.negatesTest at negates
    obtain ⟨isNot, test⟩ := Bool.and_eq_true_iff.1 negates
    have follows := goesOn true state.advance fun _ => by
      split at test
      case h_1 head => exact ⟨.between, by decide, head⟩
      case h_2 head => exact ⟨.inList, by decide, head⟩
      case h_3 head => exact ⟨.like, by decide, head⟩
      case h_4 => cases test
    exact follows.after (Stream.reads_advance (eq_of_beq isNot)) fun _ isWord =>
      joined (Language.append_mem_mul rfl isWord)
  · exact goesOn false state nofun

theorem recognizes_testOf (left : Nat) : Recognizes (testTails false) (testOf inner left) := by
  refine recognizes_skipNegation testTails not_mul_testTails_le fun negated state tests => ?_
  have positive (none : ∀ keyword ∈ [Keyword.between, .inList, .like],
      state.stream.rest.head? ≠ some (.keyword keyword)) : negated = false := by
    by_contra isNegated
    obtain ⟨keyword, member, head⟩ := tests (Bool.not_eq_false _ ▸ isNegated)
    exact none keyword member head
  have alone (isPositive : negated = false) :
      Recognized (testTails negated) state ((pure left : Rule) state) :=
    .ok (isPositive ▸ nil_mem_testTails) (.refl state.stream)
  have negate (test : Nat) : Recognizes 1 (negateIf negated test) :=
    recognizes_negateIf negated test
  rw [current_bind]
  rcases head : state.stream.rest.head? with _ | _ | _ | _ | keyword | mark
  case some.keyword =>
    cases keyword with
    | between =>
      have test := (recognizes_between below left).finish negate
      exact (Recognized.advance head (test _)).mono (between_le_testTails negated)
    | inList =>
      have items := (recognizes_disjunctions below).finish fun items =>
        recognizes_node .inList (left :: items)
      exact (Recognized.advance head ((items.finish negate) _)).mono (inList_le_testTails negated)
    | like =>
      have pattern := (recognizes_likePattern below).finish fun pattern =>
        recognizes_node .like [left, pattern]
      exact (Recognized.advance head ((pattern.finish negate) _)).mono (like_le_testTails negated)
    | _ => exact alone (positive (by simp [head]))
  case some.symbol =>
    obtain rfl := positive (by simp [head])
    dsimp only
    rw [Option.bind_some]
    cases known : comparison? (.symbol mark) with
    | none => exact alone rfl
    | some operator =>
      have right := (recognizes_sum below).finish fun right =>
        recognizes_node (.compare operator) [left, right]
      rw [eq_symbolOf_of_comparison? known] at head
      exact (Recognized.advance head ((right.finish negate) _)).mono (compare_le_testTails operator)
  all_goals exact alone (positive (by simp [head]))

theorem recognizes_test : Recognizes (phrases .test) (test inner) := by
  refine ((recognizes_sum below).bind (fun left => (?_ : Recognizes (testTails false) _))
    ⟨[], nil_mem_testTails⟩).mono (mul_after_le _ _)
  intro state
  rw [current_bind]
  split_ifs with isTest
  · refine (Recognized.advance isTest ?_).mono (mul_after_le _ _)
    have truth (negated : Bool) {words : List Token} (isTruth : words ∈ truths) :
        notIf negated ++ words ∈ Grammar.after (word (.keyword .is)) (testTails false) := by
      rintro _ rfl
      exact is_mem_testTails negated isTruth
    rw [current_bind]
    split_ifs with isNot
    · refine (Recognized.advance isNot (recognizes_truthTest left true _)).mono ?_
      rintro _ ⟨_, rfl, words, isTruth, rfl⟩
      exact truth true isTruth
    · exact (recognizes_truthTest left false _).mono fun words isTruth => truth false isTruth
  · exact recognizes_testOf below left state

theorem recognizes_negation : Recognizes (phrases .negation) (negation inner) := by
  intro state
  unfold negation
  rw [current_bind]
  split_ifs with head
  · have operand := below.negation.finish fun operand => recognizes_node .not [operand]
    exact (Recognized.advance head (operand _)).mono phrases_not
  · exact (recognizes_test below state).mono (phrases_alone .negation)

theorem recognizes_disjunction : Recognizes (phrases .disjunction) (disjunction inner) :=
  recognizes_chain .disjunction operators_disjunction
    (recognizes_chain .conjunction operators_conjunction (recognizes_negation below))

end Level

/-! ## All levels -/

theorem recognizes_deeper {language : Language Token} {rule : Rule}
    (recognizes : Recognizes language rule) : Recognizes language (deeper rule) := by
  intro state
  unfold deeper
  split_ifs with room
  · have recognized := recognizes { state with depth := state.depth + 1, shallow := room }
    generalize rule { state with depth := state.depth + 1, shallow := room } = result at recognized
    cases recognized with
    | ok isWord reads => exact .ok isWord reads
    | @stuck next read expected more begins reads =>
      have reads : state.stream.Reads read next.leave.stream := reads
      exact .stuck more begins reads
    | refused other => exact .refused other
  · exact recognizes_tooDeep state

section Levels

variable [Engine]

theorem recognizes_nested (levels : Nat) : RecognizesBelow (nested levels) := by
  induction levels with
  | zero => exact ⟨recognizes_tooDeep, recognizes_tooDeep, recognizes_tooDeep⟩
  | succ levels ih =>
    exact ⟨recognizes_deeper (recognizes_disjunction ih),
      recognizes_deeper (recognizes_negation ih), recognizes_deeper (recognizes_factor ih)⟩

end Levels

/-! ## The tokens before an unexpected one -/

/-- What has been read of all tokens stands in front of the position, and what comes next behind. -/
theorem Stream.Reads.from_start {tokens read : List Token} {next : Stream}
    (reads : Stream.Reads read ⟨0, tokens⟩ next) :
    next.position ≤ tokens.length ∧ next.rest.head? = tokens[next.position]? ∧
      tokens.take next.position = read := by
  obtain ⟨rfl, position⟩ := reads
  rw [Nat.zero_add] at position
  rw [position, List.length_append, List.take_left, List.head?_eq_getElem?]
  refine ⟨Nat.le_add_right .., ?_, rfl⟩
  rw [List.getElem?_append_right le_rfl, Nat.sub_self]

variable [Engine]

/-- The tokens in front of an unexpected one begin some predicate. -/
theorem parseExpression_stuck {tokens : List Token} {position : Nat} {expected : Expected}
    {found : Option Token}
    (stuck : parseExpression tokens = .error (.unexpected position expected found)) :
    position ≤ tokens.length ∧ found = tokens[position]? ∧
      ∃ more, tokens.take position ++ more ∈ phrases .disjunction := by
  have recognized := (recognizes_nested (maxDepth + 1)).disjunction (.start tokens)
  unfold parseExpression at stuck
  generalize (nested (maxDepth + 1)).disjunction (.start tokens) = result at recognized stuck
  cases recognized with
  | @ok root state read isWord reads =>
    dsimp only at stuck
    split at stuck
    case h_1 =>
      obtain ⟨_, _, same⟩ := mapError_eq_error_iff.1 stuck
      cases same
    case h_2 =>
      cases stuck
      obtain ⟨inside, next, before⟩ := reads.from_start
      exact ⟨inside, next, [], by rwa [before, List.append_nil]⟩
  | stuck more begins reads =>
    cases stuck
    obtain ⟨inside, next, before⟩ := reads.from_start
    exact ⟨inside, next, more, by rwa [before]⟩
  | refused other =>
    cases stuck
    cases other

/-- **What stands in front of an unexpected token begins a predicate.**  If a text is cut into
tokens and one of them is not expected, its position is that of a token or of the end, the error
shows the token that is there, and the tokens in front of it can be continued to a predicate. -/
theorem parse_stuck {text : String} {position : Nat} {expected : Expected} {found : Option Token}
    (stuck : parse text = .error (.unexpected position expected found)) :
    ∃ tokens, Lexer.tokenize text = .ok tokens ∧ position ≤ tokens.length ∧
      found = tokens[position]? ∧
      (ParseError.unexpected position expected found).message =
        "Unexpected token at position " ++ toString position ++ ": expected " ++
          expected.describe ++ ", found " ++ Token.describeNext tokens[position]? ∧
      ∃ more, tokens.take position ++ more ∈ phrases .disjunction := by
  unfold parse at stuck
  cases cut : Lexer.tokenize text with
  | error error =>
    rw [cut] at stuck
    cases stuck
  | ok tokens =>
    rw [cut] at stuck
    obtain ⟨inside, next, viable⟩ := parseExpression_stuck stuck
    exact ⟨tokens, rfl, inside, next, by rw [next]; rfl, viable⟩

omit [Engine] in
/-- A parenthesis that is opened behind `NOT` leaves a predicate unfinished. -/
theorem parse_stuck_open :
    @parse Engine.direct "NOT (" = .error (.unexpected 2 .expression none) ∧
      ∃ more, [.keyword .not, .symbol .leftParen] ++ more ∈ phrases .disjunction := by
  have cut : Lexer.tokenize "NOT (" = .ok [.keyword .not, .symbol .leftParen] := by
    rw [Lexer.tokenize, Lexer.lex, Lexer.lexFrom_token rfl rfl, Lexer.lexFrom_token rfl rfl,
      Lexer.lexFrom_end rfl]
    rfl
  have stuck : @parse Engine.direct "NOT (" = .error (.unexpected 2 .expression none) := by
    unfold parse
    rw [cut]
    rfl
  obtain ⟨tokens, cut', _, _, _, viable⟩ := @parse_stuck Engine.direct _ _ _ _ stuck
  obtain rfl := Except.ok.inj (cut.symm.trans cut')
  exact ⟨stuck, viable⟩

end Parser

end Sift
