import Sift.Proofs.Language.Steps

/-!
# What is read is derived

If a rule of the descent reads a term, it has taken tokens from the front of the stream that the
grammar derives with that term, and it has measured the depth of the term.  The rules are taken one
after the other, from the strongest to the weakest, under the assumption that the same is true of
the rules that open a new level (`SoundBelow`).  Induction on the number of levels discharges it.
-/

set_option autoImplicit false

open Sift.Descent
open Sift.Parser (Stream)

namespace Sift.Grammar

/-! ## Reading -/

/-- A term was read: tokens were taken from the front of a stream, and they mean the term. -/
def Reads (meaning : List Token → Term → Prop) (stream : Stream) (grown : Grown)
    (next : Stream) : Prop :=
  ∃ tokens term, stream.rest = tokens ++ next.rest ∧ meaning tokens term ∧
    grown = term.grown ∧ term.depth ≤ maxDepth

/-- Whatever a rule reads has the meaning. -/
def Sound (meaning : List Token → Term → Prop) (rule : Rule) : Prop :=
  ∀ ⦃stream grown next⦄, rule stream = .ok (grown, next) → Reads meaning stream grown next

/-- What was read behind tokens was read together with them. -/
theorem Reads.behind {meaning : List Token → Term → Prop} {stream middle next : Stream}
    {grown : Grown} {tokens : List Token} (front : stream.rest = tokens ++ middle.rest)
    (reads : Reads (fun more => meaning (tokens ++ more)) middle grown next) :
    Reads meaning stream grown next := by
  obtain ⟨more, term, rest, means, same, small⟩ := reads
  exact ⟨tokens ++ more, term, by rw [front, rest, List.append_assoc], means, same, small⟩

theorem Sound.alone [Engine] {levels : Nat} {category part : Category} {rule : Rule}
    (sound : Sound (Derives levels part) rule) (includes : category.Includes part) :
    Sound (Derives levels category) rule := by
  intro stream grown next read
  obtain ⟨used, term, rest, derives, same, small⟩ := sound read
  exact ⟨used, term, rest, .alone includes derives, same, small⟩

/-- A single token was read as a leaf. -/
theorem reads_leaf {meaning : List Token → Term → Prop} {stream next : Stream} {grown : Grown}
    {token : Token} {kind : NodeKind} {term : Term} (head : stream.rest.head? = some token)
    (made : kind.term? [] = some term) (means : meaning [token] term)
    (read : Descent.finish kind [] stream.advance = .ok (grown, next)) :
    Reads meaning stream grown next := by
  obtain ⟨⟨rfl, small⟩, rfl⟩ := (finish_eq_ok_iff [] made).1 read
  exact ⟨[token], term, rest_eq_of_head? head, means, rfl, small⟩

/-! ## Chains and lists -/

/-- Items of a list were read, with commas between them. -/
def ReadsItems (meaning : List Token → Term → Prop) (tokens : List Token)
    (operands : List Grown) : Prop :=
  ∃ parts : List (List Token × Term), parts ≠ [] ∧ tokens = separated (parts.map Prod.fst) ∧
    (∀ part ∈ parts, meaning part.1 part.2) ∧ operands = (parts.map Prod.snd).map Term.grown

theorem readsItems_items {meaning : List Token → Term → Prop} {item : Rule}
    (sound : Sound meaning item) {stream next : Stream} {operands : List Grown}
    (read : items item stream = .ok (operands, next)) :
    ∃ tokens, stream.rest = tokens ++ next.rest ∧ ReadsItems meaning tokens operands := by
  fun_induction items item stream generalizing operands with
  | case1 => cases read
  | case2 stream grown middle readFirst more ih =>
    obtain ⟨⟨later, behind⟩, readRest, same⟩ := map_eq_ok_iff.1 read
    obtain ⟨rfl, rfl⟩ := Prod.mk.inj same
    obtain ⟨used, term, rest, means, rfl, _⟩ := sound readFirst
    obtain ⟨tokens, restLater, parts, some, rfl, meansAll, rfl⟩ := ih readRest
    refine ⟨used ++ .symbol .comma :: separated (parts.map Prod.fst), ?_, (used, term) :: parts,
      List.cons_ne_nil _ _, ?_, List.forall_mem_cons.2 ⟨means, meansAll⟩, rfl⟩
    · rw [rest, rest_eq_of_head? more.1, restLater]
      simp
    · obtain ⟨second, others, rfl⟩ := List.exists_cons_of_ne_nil some
      rfl
  | case3 stream grown middle readFirst last =>
    obtain ⟨rfl, rfl⟩ := Prod.mk.inj (Except.ok.inj read)
    obtain ⟨used, term, rest, means, rfl, _⟩ := sound readFirst
    exact ⟨used, rest, [(used, term)], List.cons_ne_nil _ _, rfl,
      List.forall_mem_singleton.2 means, rfl⟩

theorem readsItems_listInParens {meaning : List Token → Term → Prop} {item : Rule}
    (sound : Sound meaning item) {stream next : Stream} {operands : List Grown}
    (read : listInParens item stream = .ok (operands, next)) :
    ∃ parts : List (List Token × Term), parts ≠ [] ∧
      stream.rest = listed (parts.map Prod.fst) ++ next.rest ∧
      (∀ part ∈ parts, meaning part.1 part.2) ∧ operands = (parts.map Prod.snd).map Term.grown := by
  obtain ⟨_, opens, read⟩ := do_eq_ok_iff.1 read
  obtain ⟨⟨found, middle⟩, readItems, read⟩ := do_eq_ok_iff.1 read
  obtain ⟨_, closes, read⟩ := do_eq_ok_iff.1 read
  obtain ⟨rfl, rfl⟩ := Prod.mk.inj (Except.ok.inj read)
  obtain ⟨head, rfl⟩ := expectSymbol_eq_ok_iff.1 opens
  obtain ⟨last, rfl⟩ := expectSymbol_eq_ok_iff.1 closes
  obtain ⟨tokens, rest, parts, some, rfl, meansAll, rfl⟩ := readsItems_items sound readItems
  refine ⟨parts, some, ?_, meansAll, rfl⟩
  rw [rest_eq_of_head? head, rest, rest_eq_of_head? last]
  simp [listed]

variable [Engine] {levels : Nat}

theorem sound_chainFrom {category part : Category} {operand : Rule}
    {operator? : Token → Option NodeKind} (includes : category.Includes part)
    (operators : Operators category operator?) (sound : Sound (Derives levels part) operand)
    {stream next : Stream} {grown : Grown} {left : Term} {tokens : List Token}
    (first : Derives levels category tokens left) (small : left.depth ≤ maxDepth)
    (read : chainFrom operand operator? left.grown stream = .ok (grown, next)) :
    Reads (fun more => Derives levels category (tokens ++ more)) stream grown next := by
  generalize start : left.grown = grownLeft at read
  fun_induction chainFrom operand operator? grownLeft stream generalizing left tokens with
  | case1 grownLeft stream ends =>
    obtain ⟨rfl, rfl⟩ := Prod.mk.inj (Except.ok.inj read)
    exact ⟨[], left, rfl, by simpa using first, start.symm, small⟩
  | case2 | case3 => cases read
  | case4 grownLeft stream kind isOperator grownRight middle readRight node grew shorter ih =>
    subst start
    obtain ⟨token, head, known⟩ := Option.bind_eq_some_iff.1 isOperator
    obtain ⟨make, joins, made⟩ := operators known
    obtain ⟨used, right, rest, second, rfl, _⟩ := sound readRight
    obtain ⟨rfl, smallNode⟩ := (grow_eq_ok_iff [left, right] (made left right)).1 grew
    have front : stream.rest = (token :: used) ++ middle.rest := by
      rw [rest_eq_of_head? head, rest, List.cons_append]
    have later := ih (.chain includes joins first second) smallNode rfl read
    exact .behind front (by simpa using later)
  | case5 grownLeft stream kind isOperator grownRight middle readRight node grew longer =>
    obtain ⟨token, head, _⟩ := Option.bind_eq_some_iff.1 isOperator
    obtain ⟨used, _, rest, _⟩ := sound readRight
    rw [rest_eq_of_head? head, rest, List.length_cons, List.length_append] at longer
    omega

/-- A chain reads members of its category. -/
theorem sound_chain {category part : Category} {operand : Rule}
    {operator? : Token → Option NodeKind} (includes : category.Includes part)
    (operators : Operators category operator?) (sound : Sound (Derives levels part) operand) :
    Sound (Derives levels category) (chain operand operator?) := by
  intro stream grown next read
  obtain ⟨⟨grownLeft, middle⟩, readLeft, readRest⟩ := bind_eq_ok_iff.1 read
  obtain ⟨used, left, rest, first, rfl, small⟩ := sound readLeft
  exact .behind rest
    (sound_chainFrom includes operators sound (.alone includes first) small readRest)

/-! ## The rules of one level -/

/-- A category one level further down, if there is one. -/
def Below (levels : Nat) (category : Category) (tokens : List Token) (term : Term) : Prop :=
  ∃ lower, levels = lower + 1 ∧ Derives lower category tokens term

/-- The rules that open a new level read what is derived one level further down. -/
structure SoundBelow (levels : Nat) (inner : Nested) : Prop where
  disjunction : Sound (Below levels .disjunction) inner.disjunction
  negation : Sound (Below levels .negation) inner.negation
  factor : Sound (Below levels .factor) inner.factor

/-- The items of a list are all one level further down. -/
theorem exists_lower_of_items {parts : List (List Token × Term)} (some : parts ≠ [])
    (below : ∀ part ∈ parts, Below levels .disjunction part.1 part.2) :
    ∃ lower, levels = lower + 1 ∧ ∀ part ∈ parts, Derives lower .disjunction part.1 part.2 := by
  obtain ⟨first, rest, rfl⟩ := List.exists_cons_of_ne_nil some
  obtain ⟨lower, rfl, _⟩ := below first (List.mem_cons_self ..)
  refine ⟨lower, rfl, fun part member => ?_⟩
  obtain ⟨lower', same, derives⟩ := below part member
  obtain rfl := Nat.succ.inj same
  exact derives

variable {inner : Nested} (below : SoundBelow levels inner)
include below

theorem sound_primary : Sound (Derives levels .primary) (primary inner) := by
  intro stream grown next read
  unfold primary at read
  split at read
  case h_1 text head =>
    obtain ⟨_, found, same⟩ := map_eq_ok_iff.1 read
    obtain ⟨rfl, rfl⟩ := Prod.mk.inj same
    obtain ⟨number, writes, rfl⟩ := numberLiteral_eq_ok_iff.1 found
    exact ⟨_, _, rest_eq_of_head? head, .number writes, rfl, depth_literal_le _⟩
  case h_2 text head => exact reads_leaf head rfl .string read
  case h_3 head => exact reads_leaf head rfl (.truth true) read
  case h_4 head => exact reads_leaf head rfl (.truth false) read
  case h_5 name head => exact reads_leaf head rfl .property read
  case h_6 head =>
    obtain ⟨⟨operands, middle⟩, readItems, read⟩ := do_eq_ok_iff.1 read
    obtain ⟨parts, some, rest, means, rfl⟩ := readsItems_listInParens below.disjunction readItems
    obtain ⟨lower, rfl, derives⟩ := exists_lower_of_items some means
    obtain ⟨⟨rfl, small⟩, rfl⟩ := (finish_eq_ok_iff _ (term?_any some)).1 read
    refine ⟨_, _, ?_, .any parts some derives, rfl, small⟩
    rw [rest_eq_of_head? head, rest, List.cons_append]
  case h_7 head =>
    obtain ⟨⟨inside, middle⟩, readInside, read⟩ := do_eq_ok_iff.1 read
    obtain ⟨_, closes, read⟩ := do_eq_ok_iff.1 read
    obtain ⟨rfl, rfl⟩ := Prod.mk.inj (Except.ok.inj read)
    obtain ⟨last, rfl⟩ := expectSymbol_eq_ok_iff.1 closes
    obtain ⟨used, term, rest, ⟨lower, rfl, derives⟩, rfl, small⟩ := below.disjunction readInside
    refine ⟨_, term, ?_, .parens derives, rfl, small⟩
    rw [rest_eq_of_head? head, rest, rest_eq_of_head? last]
    simp
  case h_8 => cases read

theorem sound_factor : Sound (Derives levels .factor) (factor inner) := by
  intro stream grown next read
  unfold factor at read
  split at read
  case h_1 head =>
    obtain ⟨used, term, rest, ⟨lower, rfl, derives⟩, rfl, small⟩ := below.factor read
    refine ⟨_, term, ?_, .plus derives, rfl, small⟩
    rw [rest_eq_of_head? head, rest, List.cons_append]
  case h_2 head =>
    split at read
    case h_1 text headNumber =>
      obtain ⟨_, found, same⟩ := map_eq_ok_iff.1 read
      obtain ⟨rfl, rfl⟩ := Prod.mk.inj same
      obtain ⟨number, writes, rfl⟩ := numberLiteral_eq_ok_iff.1 found
      refine ⟨_, _, ?_, .minusNumber writes, rfl, depth_literal_le _⟩
      rw [rest_eq_of_head? head, rest_eq_of_head? headNumber]
      rfl
    case h_2 noNumber =>
      obtain ⟨⟨operand, middle⟩, readOperand, read⟩ := do_eq_ok_iff.1 read
      obtain ⟨used, term, rest, ⟨lower, rfl, derives⟩, rfl, _⟩ := below.factor readOperand
      obtain ⟨⟨rfl, small⟩, rfl⟩ := (finish_eq_ok_iff [term] rfl).1 read
      refine ⟨_, _, ?_, .minus derives fun text first => ?_, rfl, small⟩
      · rw [rest_eq_of_head? head, rest, List.cons_append]
      · rw [rest, List.head?_append, first] at noNumber
        exact noNumber text rfl
  case h_3 => exact Sound.alone (sound_primary below) .factor read

theorem sound_sum : Sound (Derives levels .sum) (sum inner) :=
  sound_chain .sum operators_sum (sound_chain .product operators_product (sound_factor below))

/-! ## Tests -/

omit [Engine] below in
/-- A test that was read and negated if need be. -/
theorem reads_negateIf {meaning : List Token → Term → Prop} {negated : Bool}
    {result : Except ParseError (Grown × Parser.Stream)} {stream next : Parser.Stream}
    {grown : Grown}
    (reads : ∀ {grown next}, result = .ok (grown, next) →
      Reads (fun tokens term => meaning tokens (negatedIf negated term)) stream grown next)
    (read : negateIf negated result = .ok (grown, next)) : Reads meaning stream grown next := by
  cases negated with
  | false => exact reads read
  | true =>
    obtain ⟨⟨test, middle⟩, readTest, read⟩ := bind_eq_ok_iff.1 read
    obtain ⟨used, term, rest, means, rfl, _⟩ := reads readTest
    obtain ⟨⟨rfl, small⟩, rfl⟩ := (finish_eq_ok_iff [term] rfl).1 read
    exact ⟨used, .not term, rest, means, rfl, small⟩

section Tests

variable {tokens : List Token} {value : Term} (first : Derives levels .sum tokens value)
include first

theorem reads_between {negated : Bool} {stream next : Parser.Stream} {grown : Grown}
    (head : stream.rest.head? = some (.keyword .between))
    (read : between inner value.grown stream.advance = .ok (grown, next)) :
    Reads (fun more term =>
      Derives levels .test (tokens ++ (notIf negated ++ more)) (negatedIf negated term))
      stream grown next := by
  obtain ⟨⟨low, middle⟩, readLow, read⟩ := do_eq_ok_iff.1 read
  obtain ⟨_, joins, read⟩ := do_eq_ok_iff.1 read
  obtain ⟨⟨high, last⟩, readHigh, read⟩ := do_eq_ok_iff.1 read
  obtain ⟨isAnd, rfl⟩ := expectKeyword_eq_ok_iff.1 joins
  obtain ⟨lowTokens, low, restLow, second, rfl, _⟩ := sound_sum below readLow
  obtain ⟨highTokens, high, restHigh, third, rfl, _⟩ := sound_sum below readHigh
  obtain ⟨⟨rfl, small⟩, rfl⟩ := (finish_eq_ok_iff [value, low, high] rfl).1 read
  refine ⟨_, _, ?_, .between negated first second third, rfl, small⟩
  rw [rest_eq_of_head? head, restLow, rest_eq_of_head? isAnd, restHigh]
  simp

theorem reads_inList {negated : Bool} {stream middle next : Parser.Stream} {operands : List Grown}
    {grown : Grown} (head : stream.rest.head? = some (.keyword .inList))
    (readItems : listInParens inner.disjunction stream.advance = .ok (operands, middle))
    (read : Descent.finish .inList (value.grown :: operands) middle = .ok (grown, next)) :
    Reads (fun more term =>
      Derives levels .test (tokens ++ (notIf negated ++ more)) (negatedIf negated term))
      stream grown next := by
  obtain ⟨parts, some, rest, means, rfl⟩ := readsItems_listInParens below.disjunction readItems
  obtain ⟨lower, rfl, derives⟩ := exists_lower_of_items some means
  obtain ⟨⟨rfl, small⟩, rfl⟩ :=
    (finish_eq_ok_iff (value :: parts.map Prod.snd) rfl).1 read
  refine ⟨_, _, ?_, .inList negated parts some first derives, rfl, small⟩
  rw [rest_eq_of_head? head, rest, List.cons_append]

omit [Engine] below first in
theorem escapeClause_eq_ok {stream next : Parser.Stream} {escape : Option Char}
    (read : escapeClause stream = .ok (escape, next)) :
    ∃ clause, Escapes clause escape ∧ stream.rest = clause ++ next.rest := by
  unfold escapeClause at read
  split_ifs at read with head
  · split at read
    · rename_i text headText
      split at read
      · rename_i c one
        obtain ⟨rfl, rfl⟩ := Prod.mk.inj (Except.ok.inj read)
        refine ⟨_, .single one, ?_⟩
        rw [rest_eq_of_head? head, rest_eq_of_head? headText]
        rfl
      · cases read
    · cases read
  · obtain ⟨rfl, rfl⟩ := Prod.mk.inj (Except.ok.inj read)
    exact ⟨[], .none, rfl⟩

theorem reads_like {negated : Bool} {stream middle next : Parser.Stream} {pattern grown : Grown}
    (head : stream.rest.head? = some (.keyword .like))
    (readPattern : likePattern inner stream.advance = .ok (pattern, middle))
    (read : Descent.finish .like [value.grown, pattern] middle = .ok (grown, next)) :
    Reads (fun more term =>
      Derives levels .test (tokens ++ (notIf negated ++ more)) (negatedIf negated term))
      stream grown next := by
  unfold likePattern at readPattern
  split at readPattern
  case h_1 text headText =>
    obtain ⟨⟨escape, behind⟩, readEscape, readLiteral⟩ := do_eq_ok_iff.1 readPattern
    obtain ⟨_, found, same⟩ := map_eq_ok_iff.1 readLiteral
    obtain ⟨rfl, rfl⟩ := Prod.mk.inj same
    obtain ⟨clause, escapes, rest⟩ := escapeClause_eq_ok readEscape
    obtain ⟨compiles, rfl⟩ := patternLiteral_eq_ok_iff.1 found
    obtain ⟨⟨rfl, small⟩, rfl⟩ :=
      (finish_eq_ok_iff [value, .literal (.pattern ⟨text, escape⟩)] rfl).1 read
    refine ⟨_, _, ?_, .likeText negated first escapes compiles, rfl, small⟩
    rw [rest_eq_of_head? head, rest_eq_of_head? headText, rest]
    rfl
  case h_2 noText =>
    obtain ⟨patternTokens, term, rest, second, rfl, _⟩ := sound_sum below readPattern
    obtain ⟨⟨rfl, small⟩, rfl⟩ := (finish_eq_ok_iff [value, term] rfl).1 read
    refine ⟨_, _, ?_, .like negated first second fun text isText => ?_, rfl, small⟩
    · rw [rest_eq_of_head? head, rest, List.cons_append]
    · rw [rest, List.head?_append, isText] at noText
      exact noText text rfl

/-- What follows the sum that a test begins with. -/
theorem reads_testOf (small : value.depth ≤ maxDepth) {stream next : Parser.Stream} {grown : Grown}
    (read : testOf inner value.grown stream = .ok (grown, next)) :
    Reads (fun more => Derives levels .test (tokens ++ more)) stream grown next := by
  unfold testOf at read
  dsimp only at read
  generalize isNegated : (stream.rest.head? == some (.keyword .not)) = negated at read
  generalize isStart : (if negated = true then stream.advance else stream) = start at read
  have front : stream.rest = notIf negated ++ start.rest := by
    subst isStart
    cases negated with
    | false => rfl
    | true => exact rest_eq_of_head? (eq_of_beq isNegated)
  split at read
  case h_1 head =>
    exact .behind front (reads_negateIf (reads_between below first head) read)
  case h_2 head =>
    refine .behind front (reads_negateIf (fun found => ?_) read)
    obtain ⟨⟨operands, middle⟩, readItems, found⟩ := do_eq_ok_iff.1 found
    exact reads_inList below first head readItems found
  case h_3 head =>
    refine .behind front (reads_negateIf (fun found => ?_) read)
    obtain ⟨⟨pattern, middle⟩, readPattern, found⟩ := do_eq_ok_iff.1 found
    exact reads_like below first head readPattern found
  case h_4 =>
    split at read
    · rename_i operator known
      obtain ⟨token, head, known⟩ := Option.bind_eq_some_iff.1 known
      obtain rfl := eq_symbolOf_of_comparison? known
      obtain ⟨⟨right, middle⟩, readRight, read⟩ := do_eq_ok_iff.1 read
      obtain ⟨used, right, rest, second, rfl, _⟩ := sound_sum below readRight
      obtain ⟨⟨rfl, small⟩, rfl⟩ := (finish_eq_ok_iff [value, right] rfl).1 read
      refine ⟨_, _, ?_, .compare operator first second, rfl, small⟩
      rw [rest_eq_of_head? head, rest, List.cons_append]
    · obtain ⟨rfl, rfl⟩ := Prod.mk.inj (Except.ok.inj read)
      exact ⟨[], value, rfl, by simpa using Derives.alone .test first, rfl, small⟩

omit below in
/-- What follows `IS` and perhaps `NOT`. -/
theorem reads_truthTest {negated : Bool} {stream next : Parser.Stream} {grown : Grown}
    (read : truthTest value.grown negated stream = .ok (grown, next)) :
    Reads (fun more => Derives levels .test (tokens ++ .keyword .is :: (notIf negated ++ more)))
      stream grown next := by
  have against (b : Bool) (head : stream.rest.head? = some (truthWord b))
      (read : (do
        let literal ← grow (.literal (.boolean b)) []
        Descent.finish (.compare (if negated then .ne else .eq)) [value.grown, literal]
          stream.advance) = .ok (grown, next)) :
      Reads (fun more => Derives levels .test (tokens ++ .keyword .is :: (notIf negated ++ more)))
        stream grown next := by
    obtain ⟨literal, readLiteral, read⟩ := do_eq_ok_iff.1 read
    obtain ⟨rfl, _⟩ := (grow_eq_ok_iff [] rfl).1 readLiteral
    obtain ⟨⟨rfl, small⟩, rfl⟩ :=
      (finish_eq_ok_iff [value, .literal (.boolean b)] rfl).1 read
    exact ⟨_, _, rest_eq_of_head? head, .isTruth negated b first, rfl, small⟩
  unfold truthTest at read
  extract_lets literalTest at read
  split at read
  case h_1 head =>
    refine reads_negateIf (fun found => ?_) read
    obtain ⟨⟨rfl, small⟩, rfl⟩ := (finish_eq_ok_iff [value] rfl).1 found
    exact ⟨_, _, rest_eq_of_head? head, .isNull negated first, rfl, small⟩
  case h_2 head => exact against true head read
  case h_3 head => exact against false head read
  case h_4 => cases read

end Tests

theorem sound_test : Sound (Derives levels .test) (test inner) := by
  intro stream grown next read
  obtain ⟨⟨left, middle⟩, readLeft, read⟩ := do_eq_ok_iff.1 read
  obtain ⟨used, value, rest, first, rfl, small⟩ := sound_sum below readLeft
  dsimp only at read
  split_ifs at read with isWord notWord
  · refine .behind rest ?_
    obtain ⟨more, term, restMore, derives, same, small⟩ := reads_truthTest first read
    refine ⟨.keyword .is :: .keyword .not :: more, term, ?_, derives, same, small⟩
    rw [rest_eq_of_head? isWord, rest_eq_of_head? notWord, restMore]
    rfl
  · refine .behind rest ?_
    obtain ⟨more, term, restMore, derives, same, small⟩ := reads_truthTest first read
    refine ⟨.keyword .is :: more, term, ?_, derives, same, small⟩
    rw [rest_eq_of_head? isWord, restMore]
    rfl
  · exact .behind rest (reads_testOf below first small read)

/-! ## Connectives -/

theorem sound_negation : Sound (Derives levels .negation) (negation inner) := by
  intro stream grown next read
  unfold negation at read
  split_ifs at read with head
  · obtain ⟨⟨operand, middle⟩, readOperand, read⟩ := do_eq_ok_iff.1 read
    obtain ⟨used, term, rest, ⟨lower, rfl, derives⟩, rfl, _⟩ := below.negation readOperand
    obtain ⟨⟨rfl, small⟩, rfl⟩ := (finish_eq_ok_iff [term] rfl).1 read
    refine ⟨_, _, ?_, .not derives, rfl, small⟩
    rw [rest_eq_of_head? head, rest, List.cons_append]
  · exact Sound.alone (sound_test below) .negation read

theorem sound_disjunction : Sound (Derives levels .disjunction) (disjunction inner) :=
  sound_chain .disjunction operators_disjunction
    (sound_chain .conjunction operators_conjunction (sound_negation below))

omit below in
/-- **The rules of every level read what is derived there.** -/
theorem soundBelow_nested (levels : Nat) : SoundBelow levels (nested levels) := by
  have down {lower : Nat} {category : Category} {rule : Rule}
      (sound : Sound (Derives lower category) rule) : Sound (Below (lower + 1) category) rule := by
    intro stream grown next read
    obtain ⟨used, term, rest, derives, same, small⟩ := sound read
    exact ⟨used, term, rest, ⟨lower, rfl, derives⟩, same, small⟩
  induction levels with
  | zero => exact ⟨nofun, nofun, nofun⟩
  | succ lower ih =>
    exact ⟨down (sound_disjunction ih), down (sound_negation ih), down (sound_factor ih)⟩

end Sift.Grammar
