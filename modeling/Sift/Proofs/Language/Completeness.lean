import Sift.Proofs.Language.Endings

/-!
# What is derived is read

If the grammar derives tokens with a term that is not too deep, the rule of their category reads
that term, whatever follows, as long as the next token cannot continue the category (`Stops`).

A chain leans to the left, so its derivation ends with the last operator while the descent begins
with the first operand.  The induction therefore says of a chain that reading it amounts to having
read a part of it and going on from there (`resume`): the next operator may follow.
-/

set_option autoImplicit false

open Sift.Descent
open Sift.Parser (Stream productOperator? sumOperator? connective?)

namespace Sift.Grammar

/-! ## Chains and lists -/

/-- A chain ends where no operator follows. -/
theorem chainFrom_stops {operand : Rule} {operator? : Token → Option NodeKind} {grown : Grown}
    {stream : Parser.Stream} (stops : ∀ token ∈ stream.rest.head?, operator? token = none) :
    chainFrom operand operator? grown stream = .ok (grown, stream) := by
  have ends : stream.rest.head?.bind operator? = none := by
    rw [Option.bind_eq_none_iff]
    exact stops
  rw [chainFrom, ends]

/-- A chain goes on with the operator that follows and the operand behind it. -/
theorem chainFrom_step {operand : Rule} {operator? : Token → Option NodeKind} {token : Token}
    {kind : NodeKind} {left right node : Grown} {position : Nat} {rest : List Token}
    {next : Parser.Stream} (known : operator? token = some kind)
    (readRight : operand ⟨position + 1, rest⟩ = .ok (right, next))
    (grew : grow kind [left, right] = .ok node) (shorter : next.rest.length ≤ rest.length) :
    chainFrom operand operator? left ⟨position, token :: rest⟩ =
      chainFrom operand operator? node next := by
  have found : (token :: rest).head?.bind operator? = some kind := known
  have advanced : Stream.advance ⟨position, token :: rest⟩ = ⟨position + 1, rest⟩ := rfl
  rw [chainFrom, found]
  simp only [advanced, readRight, grew]
  exact if_pos (Nat.lt_succ_of_le shorter)

/-- Items with commas between them are read if each of them is. -/
theorem items_eq {item : Rule} {parts : List (List Token × Term)} (some : parts ≠ [])
    (reads : ∀ part ∈ parts, ∀ position rest, Stops .disjunction rest →
      ∃ position', item ⟨position, part.1 ++ rest⟩ = .ok (part.2.grown, ⟨position', rest⟩))
    (position : Nat) (rest : List Token) :
    ∃ position', items item
        ⟨position, separated (parts.map Prod.fst) ++ .symbol .rightParen :: rest⟩ =
      .ok ((parts.map Prod.snd).map Term.grown, ⟨position', .symbol .rightParen :: rest⟩) := by
  induction parts generalizing position with
  | nil => cases some rfl
  | cons part later ih =>
    obtain ⟨first, others⟩ := List.forall_mem_cons.1 reads
    cases later with
    | nil =>
      obtain ⟨position', readLast⟩ :=
        first position (.symbol .rightParen :: rest) (by rintro _ ⟨⟩; rfl)
      refine ⟨position', ?_⟩
      rw [List.map_singleton, separated, items, readLast]
      simp
    | cons second more =>
      have tokens : separated (List.map Prod.fst (part :: second :: more)) ++
          .symbol .rightParen :: rest = part.1 ++ .symbol .comma ::
            (separated ((second :: more).map Prod.fst) ++ .symbol .rightParen :: rest) := by
        simp [separated]
      obtain ⟨middle, readFirst⟩ := first position (.symbol .comma ::
        (separated ((second :: more).map Prod.fst) ++ .symbol .rightParen :: rest))
        (by rintro _ ⟨⟩; rfl)
      obtain ⟨position', readRest⟩ := ih (List.cons_ne_nil _ _) others (middle + 1)
      refine ⟨position', ?_⟩
      rw [tokens, items, readFirst]
      simp only [List.head?_cons, Stream.advance, true_and]
      rw [if_pos (by simp; omega), readRest]
      rfl

/-! ## Single steps -/

section Steps

variable {tokens : List Token} {term : Term}

theorem Joins.operands {category : Category} {token : Token} {make : Term → Term → Term}
    (joins : Joins category token make) (left right : Term) :
    (make left right).operands = [left, right] := by
  cases joins <;> rfl

theorem depth_operand_le {operand : Term} (member : operand ∈ term.operands)
    (small : term.depth ≤ maxDepth) : operand.depth ≤ maxDepth :=
  Nat.le_trans (Term.depth_operand_le member) small

theorem finish_eq {kind : NodeKind} (operands : List Term) (made : kind.term? operands = some term)
    (small : term.depth ≤ maxDepth) (stream : Parser.Stream) :
    Descent.finish kind (operands.map Term.grown) stream = .ok (term.grown, stream) :=
  (finish_eq_ok_iff operands made).2 ⟨⟨rfl, small⟩, rfl⟩

theorem depth_of_negatedIf {negated : Bool} (small : (negatedIf negated term).depth ≤ maxDepth) :
    term.depth ≤ maxDepth := by
  cases negated with
  | false => exact small
  | true =>
    have isOperand : term ∈ (Term.not term).operands := List.mem_singleton_self term
    exact depth_operand_le isOperand small

theorem negateIf_eq {negated : Bool} (small : (negatedIf negated term).depth ≤ maxDepth)
    (stream : Parser.Stream) :
    negateIf negated (.ok (term.grown, stream)) = .ok ((negatedIf negated term).grown, stream) := by
  cases negated with
  | false => rfl
  | true => exact finish_eq [term] rfl small stream

theorem truthTest_truthWord (left : Grown) (negated b : Bool) (position : Nat) (rest : List Token) :
    truthTest left negated ⟨position, truthWord b :: rest⟩ =
      (grow (.literal (.boolean b)) []).bind fun literal =>
        Descent.finish (.compare (if negated then .ne else .eq)) [left, literal]
          ⟨position + 1, rest⟩ := by
  cases b <;> rfl

/-- The words that can stand behind the first sum of a test, apart from `IS`. -/
theorem head?_notIf {negated : Bool} {token : Token} {rest : List Token}
    (different : token ≠ .keyword .is) :
    (notIf negated ++ token :: rest).head? ≠ some (.keyword .is) := by
  cases negated with
  | false => exact fun same => different (Option.some.inj same)
  | true => exact fun same => nomatch same

theorem escapeClause_eq {clause rest : List Token} {escape : Option Char}
    (escapes : Escapes clause escape) (position : Nat) (stops : Stops .test rest) :
    ∃ position', escapeClause ⟨position, clause ++ rest⟩ = .ok (escape, ⟨position', rest⟩) := by
  cases escapes with
  | none =>
    refine ⟨position, if_neg fun head => ?_⟩
    have ends := stops _ head
    cases ends
  | single one =>
    refine ⟨position + 2, ?_⟩
    simp [escapeClause, Stream.advance, one]

end Steps

/-! ## Rules by category -/

section Rules

variable [Engine]

/-- The rule of a category. -/
def rule (inner : Nested) : Category → Rule
  | .disjunction => disjunction inner
  | .conjunction => conjunction inner
  | .negation => negation inner
  | .test => test inner
  | .sum => sum inner
  | .product => product inner
  | .factor => factor inner
  | .primary => primary inner

/-- Go on with a chain; other categories are read completely. -/
def resume (inner : Nested) : Category → Grown → Rule
  | .disjunction => chainFrom (conjunction inner) (connective? .or)
  | .conjunction => chainFrom (negation inner) (connective? .and)
  | .sum => chainFrom (product inner) sumOperator?
  | .product => chainFrom (factor inner) productOperator?
  | _ => fun grown stream => .ok (grown, stream)

/-- Where a chain cannot continue, it has been read. -/
theorem resume_stops {inner : Nested} {category : Category} {grown : Grown}
    {stream : Parser.Stream} (stops : Stops category stream.rest) :
    resume inner category grown stream = .ok (grown, stream) := by
  cases category with
  | disjunction =>
    refine chainFrom_stops fun token first => ?_
    have ends := stops token first
    unfold connective?
    split <;> first | rfl | (simp [Category.continues] at ends)
  | conjunction =>
    refine chainFrom_stops fun token first => ?_
    have ends := stops token first
    unfold connective?
    split <;> first | rfl | (simp [Category.continues] at ends)
  | sum =>
    refine chainFrom_stops fun token first => ?_
    have ends := stops token first
    simp_all [Category.continues, continuesSum]
  | product =>
    refine chainFrom_stops fun token first => ?_
    have ends := stops token first
    simp_all [Category.continues, continuesProduct]
  | _ => rfl

/-- A chain goes on with its next operator and operand. -/
theorem resume_step {inner : Nested} {category part : Category} {token : Token}
    {make : Term → Term → Term} (joins : Joins category token make)
    (includes : category.Includes part) {left right : Term} {position : Nat} {rest : List Token}
    {next : Parser.Stream}
    (readRight : rule inner part ⟨position + 1, rest⟩ = .ok (right.grown, next))
    (small : (make left right).depth ≤ maxDepth) (shorter : next.rest.length ≤ rest.length) :
    resume inner category left.grown ⟨position, token :: rest⟩ =
      resume inner category (make left right).grown next := by
  cases joins <;> cases includes <;>
    exact chainFrom_step rfl readRight
      ((grow_eq_ok_iff [left, right] rfl).2 ⟨rfl, small⟩) shorter

/-! ## Reading what is derived -/

/-- Tokens of a category are read as a term, whatever follows, up to going on with a chain. -/
def Completes (levels : Nat) (category : Category) (tokens : List Token) (term : Term) : Prop :=
  ∀ position rest, Stops category.operand rest → term.depth ≤ maxDepth →
    ∃ position', rule (nested levels) category ⟨position, tokens ++ rest⟩ =
      resume (nested levels) category term.grown ⟨position', rest⟩

variable {levels : Nat} {tokens : List Token} {term : Term}

/-- Where the category cannot continue, the term is read completely. -/
theorem Completes.reads {category : Category} (completes : Completes levels category tokens term)
    (position : Nat) (rest : List Token) (stops : Stops category rest)
    (small : term.depth ≤ maxDepth) :
    ∃ position', rule (nested levels) category ⟨position, tokens ++ rest⟩ =
      .ok (term.grown, ⟨position', rest⟩) := by
  obtain ⟨position', read⟩ := completes position rest stops.operand small
  exact ⟨position', read.trans (resume_stops stops)⟩

/-- A chain reads its first operand and goes on from there. -/
theorem rule_chain {inner : Nested} {category part : Category} (includes : category.Includes part)
    (isChain : category.operand = part) (stream : Parser.Stream) :
    rule inner category stream =
      (rule inner part stream).bind fun read => resume inner category read.1 read.2 := by
  cases includes <;> first | rfl | cases isChain

/-- A test that is only a sum. -/
theorem test_alone {inner : Nested} {stream next : Parser.Stream} {left : Grown}
    (readLeft : sum inner stream = .ok (left, next)) (stops : Stops .test next.rest) :
    test inner stream = .ok (left, next) := by
  have never {token : Token} (continues : continuesTest token = true) :
      next.rest.head? ≠ some token := by
    intro head
    rw [show continuesTest token = false from stops token head] at continues
    cases continues
  have noNot : (next.rest.head? == some (.keyword .not)) = false := beq_false_of_ne (never rfl)
  rw [test, readLeft]
  show (if next.rest.head? = some (.keyword .is) then _ else testOf inner left next) = _
  rw [if_neg (never rfl), testOf, noNot]
  simp only [Bool.false_eq_true, if_false]
  split
  case h_1 head => exact absurd head (never rfl)
  case h_2 head => exact absurd head (never rfl)
  case h_3 head => exact absurd head (never rfl)
  case h_4 =>
    split
    case h_1 operator known =>
      obtain ⟨token, head, known⟩ := Option.bind_eq_some_iff.1 known
      obtain rfl := eq_symbolOf_of_comparison? known
      exact absurd head (never (by cases operator <;> rfl))
    case h_2 => rfl

theorem Completes.alone {category part : Category} (includes : category.Includes part)
    (opens : ∃ token ∈ tokens.head?, part.opens token = true)
    (completes : Completes levels part tokens term) : Completes levels category tokens term := by
  intro position rest stops small
  have chains (isChain : category.operand = part) :
      ∃ position', rule (nested levels) category ⟨position, tokens ++ rest⟩ =
        resume (nested levels) category term.grown ⟨position', rest⟩ := by
    obtain ⟨position', read⟩ := completes.reads position rest (isChain ▸ stops) small
    refine ⟨position', ?_⟩
    rw [rule_chain includes isChain, read]
    rfl
  cases includes with
  | disjunction | conjunction | sum | product => exact chains rfl
  | negation =>
    obtain ⟨position', read⟩ := completes.reads position rest stops small
    refine ⟨position', ?_⟩
    have noNot : (tokens ++ rest).head? ≠ some (.keyword .not) :=
      head?_append_of_opens opens rfl rest
    exact (if_neg noNot).trans read
  | test =>
    obtain ⟨position', read⟩ := completes.reads position rest stops.sum small
    exact ⟨position', test_alone read stops⟩
  | factor =>
    obtain ⟨position', read⟩ := completes.reads position rest (by rintro _ _; rfl) small
    refine ⟨position', ?_⟩
    have noPlus : (tokens ++ rest).head? ≠ some (.symbol .plus) :=
      head?_append_of_opens opens rfl rest
    have noMinus : (tokens ++ rest).head? ≠ some (.symbol .minus) :=
      head?_append_of_opens opens rfl rest
    show factor (nested levels) _ = _
    unfold factor
    split
    case h_1 head => exact absurd head noPlus
    case h_2 head => exact absurd head noMinus
    case h_3 => exact read

theorem Completes.chain {category part : Category} {token : Token} {make : Term → Term → Term}
    {tokens' : List Token} {left right : Term} (includes : category.Includes part)
    (joins : Joins category token make) (first : Completes levels category tokens left)
    (second : Completes levels part tokens' right) :
    Completes levels category (tokens ++ token :: tokens') (make left right) := by
  intro position rest stops small
  obtain ⟨isOperand, ends⟩ := joins.stops includes (tokens' ++ rest)
  have smallLeft : left.depth ≤ maxDepth :=
    depth_operand_le (by rw [joins.operands]; simp) small
  have smallRight : right.depth ≤ maxDepth :=
    depth_operand_le (by rw [joins.operands]; simp) small
  obtain ⟨middle, readLeft⟩ :=
    first position (token :: (tokens' ++ rest)) (isOperand ▸ ends) smallLeft
  obtain ⟨position', readRight⟩ := second.reads (middle + 1) rest (isOperand ▸ stops) smallRight
  refine ⟨position', ?_⟩
  rw [List.append_assoc, List.cons_append, readLeft]
  exact resume_step joins includes readRight small (by simp)

theorem Completes.not (operand : Completes levels .negation tokens term) :
    Completes (levels + 1) .negation (.keyword .not :: tokens) (.not term) := by
  intro position rest stops small
  have smallOperand := depth_operand_le (List.mem_singleton_self term) small
  obtain ⟨position', read⟩ := operand.reads (position + 1) rest stops smallOperand
  refine ⟨position', ?_⟩
  show (rule (nested levels) .negation ⟨position + 1, tokens ++ rest⟩).bind _ = _
  rw [read]
  exact finish_eq [term] rfl small _

/-! ## Tests -/

/-- A test with `IS` goes on with what follows it and perhaps `NOT`. -/
theorem test_is {inner : Nested} {stream : Parser.Stream} {left : Grown} {position : Nat}
    {negated : Bool} {rest : List Token}
    (readLeft : sum inner stream = .ok (left, ⟨position, .keyword .is :: (notIf negated ++ rest)⟩))
    (noNot : rest.head? ≠ some (.keyword .not)) :
    ∃ position', test inner stream = truthTest left negated ⟨position', rest⟩ := by
  rw [test, readLeft]
  cases negated with
  | false => exact ⟨position + 1, if_neg noNot⟩
  | true => exact ⟨position + 2, rfl⟩

theorem test_testOf {inner : Nested} {stream next : Parser.Stream} {left : Grown}
    (readLeft : sum inner stream = .ok (left, next))
    (noIs : next.rest.head? ≠ some (.keyword .is)) :
    test inner stream = testOf inner left next := by
  rw [test, readLeft]
  exact if_neg noIs

theorem Completes.isNull (negated : Bool) (operand : Completes levels .sum tokens term) :
    Completes levels .test (tokens ++ .keyword .is :: (notIf negated ++ [.keyword .null]))
      (negatedIf negated (.isNull term)) := by
  intro position rest _ small
  have smallTest := depth_of_negatedIf small
  have smallOperand := depth_operand_le (List.mem_singleton_self term) smallTest
  obtain ⟨middle, readOperand⟩ := operand.reads position
    (.keyword .is :: (notIf negated ++ .keyword .null :: rest)) (by rintro _ ⟨⟩; rfl) smallOperand
  obtain ⟨position', read⟩ := test_is readOperand (by simp)
  refine ⟨position' + 1, ?_⟩
  have split : tokens ++ .keyword .is :: (notIf negated ++ [.keyword .null]) ++ rest =
      tokens ++ .keyword .is :: (notIf negated ++ .keyword .null :: rest) := by simp
  rw [split]
  refine read.trans ?_
  show negateIf negated (Descent.finish .isNull ([term].map Term.grown) ⟨position' + 1, rest⟩) = _
  rw [finish_eq [term] rfl smallTest]
  exact negateIf_eq small _

theorem Completes.isTruth (negated b : Bool) (operand : Completes levels .sum tokens term) :
    Completes levels .test (tokens ++ .keyword .is :: (notIf negated ++ [truthWord b]))
      (.compare (if negated then .ne else .eq) term (.literal (.boolean b))) := by
  intro position rest _ small
  have smallOperand : term.depth ≤ maxDepth := depth_operand_le (by simp [Term.operands]) small
  obtain ⟨middle, readOperand⟩ := operand.reads position
    (.keyword .is :: (notIf negated ++ truthWord b :: rest)) (by rintro _ ⟨⟩; rfl) smallOperand
  obtain ⟨position', read⟩ := test_is readOperand (by cases b <;> simp [truthWord])
  refine ⟨position' + 1, ?_⟩
  have split : tokens ++ .keyword .is :: (notIf negated ++ [truthWord b]) ++ rest =
      tokens ++ .keyword .is :: (notIf negated ++ truthWord b :: rest) := by simp
  rw [split]
  have literal : grow (.literal (.boolean b)) [] = .ok (Term.literal (.boolean b)).grown :=
    (grow_eq_ok_iff [] rfl).2 ⟨rfl, depth_literal_le _⟩
  refine read.trans ?_
  rw [truthTest_truthWord, literal]
  exact finish_eq [term, .literal (.boolean b)] rfl small _

/-- A sum goes on as a test with a word, perhaps negated, and with what that word asks for. -/
theorem Completes.word {negated : Bool} {word : Token} {more : List Token} {value positive : Term}
    (asked : Rule) (first : Completes levels .sum tokens value)
    (ends : continuesSum word = false) (different : word ≠ .keyword .is)
    (enters : ∀ position rest, ∃ start,
      testOf (nested levels) value.grown ⟨position, notIf negated ++ word :: rest⟩ =
        negateIf negated (asked ⟨start, rest⟩))
    (inside : value ∈ positive.operands)
    (reads : ∀ position rest, Stops .test rest → positive.depth ≤ maxDepth →
      ∃ position', asked ⟨position, more ++ rest⟩ = .ok (positive.grown, ⟨position', rest⟩)) :
    Completes levels .test (tokens ++ (notIf negated ++ word :: more))
      (negatedIf negated positive) := by
  intro position rest stops small
  have smallTest := depth_of_negatedIf small
  obtain ⟨middle, readValue⟩ := first.reads position (notIf negated ++ word :: (more ++ rest))
    (stops_notIf ends) (depth_operand_le inside smallTest)
  obtain ⟨start, enters⟩ := enters middle (more ++ rest)
  obtain ⟨position', read⟩ := reads start rest stops smallTest
  refine ⟨position', ?_⟩
  have split : tokens ++ (notIf negated ++ word :: more) ++ rest =
      tokens ++ (notIf negated ++ word :: (more ++ rest)) := by simp
  rw [split]
  refine ((test_testOf readValue (head?_notIf different)).trans enters).trans ?_
  rw [read]
  exact negateIf_eq small _

theorem Completes.between (negated : Bool) {lowTokens highTokens : List Token} {low high : Term}
    (first : Completes levels .sum tokens term) (second : Completes levels .sum lowTokens low)
    (third : Completes levels .sum highTokens high) :
    Completes levels .test
      (tokens ++ (notIf negated ++
        .keyword .between :: (lowTokens ++ .keyword .and :: highTokens)))
      (negatedIf negated (.between term low high)) := by
  refine Completes.word (Descent.between (nested levels) term.grown) first rfl (by decide)
    (fun _ _ => by cases negated <;> exact ⟨_, rfl⟩) (by simp [Term.operands]) ?_
  intro position rest stops small
  have smallLow : low.depth ≤ maxDepth := depth_operand_le (by simp [Term.operands]) small
  have smallHigh : high.depth ≤ maxDepth := depth_operand_le (by simp [Term.operands]) small
  obtain ⟨joint, readLow⟩ := second.reads position (.keyword .and :: (highTokens ++ rest))
    (by rintro _ ⟨⟩; rfl) smallLow
  obtain ⟨position', readHigh⟩ := third.reads (joint + 1) rest stops.sum smallHigh
  refine ⟨position', ?_⟩
  rw [List.append_assoc, List.cons_append]
  show (rule (nested levels) .sum _).bind _ = _
  rw [readLow]
  show (rule (nested levels) .sum ⟨joint + 1, highTokens ++ rest⟩).bind _ = _
  rw [readHigh]
  exact finish_eq [term, low, high] rfl small _

/-- A list is read if its items are, one level further down. -/
theorem listInParens_eq {parts : List (List Token × Term)} (some : parts ≠ [])
    (items : ∀ part ∈ parts, Completes levels .disjunction part.1 part.2)
    (small : ∀ part ∈ parts, part.2.depth ≤ maxDepth) (position : Nat) (rest : List Token) :
    ∃ position', listInParens (nested (levels + 1)).disjunction
        ⟨position, listed (parts.map Prod.fst) ++ rest⟩ =
      .ok ((parts.map Prod.snd).map Term.grown, ⟨position', rest⟩) := by
  obtain ⟨position', readItems⟩ := items_eq some
    (fun part member position rest stops =>
      (items part member).reads position rest stops (small part member)) (position + 1) rest
  refine ⟨position' + 1, ?_⟩
  have split : listed (parts.map Prod.fst) ++ rest = .symbol .leftParen ::
      (separated (parts.map Prod.fst) ++ .symbol .rightParen :: rest) := by simp [listed]
  rw [split]
  show (Descent.items (rule (nested levels) .disjunction)
    ⟨position + 1, separated (parts.map Prod.fst) ++ .symbol .rightParen :: rest⟩).bind _ = _
  rw [readItems]
  rfl

theorem Completes.inList (negated : Bool) {parts : List (List Token × Term)} (some : parts ≠ [])
    (first : Completes (levels + 1) .sum tokens term)
    (items : ∀ part ∈ parts, Completes levels .disjunction part.1 part.2) :
    Completes (levels + 1) .test
      (tokens ++ (notIf negated ++ .keyword .inList :: listed (parts.map Prod.fst)))
      (negatedIf negated (.inList term (parts.map Prod.snd))) := by
  refine Completes.word (fun stream =>
      (listInParens (nested (levels + 1)).disjunction stream).bind fun read =>
        Descent.finish .inList (term.grown :: read.1) read.2) first rfl (by decide)
    (fun _ _ => by cases negated <;> exact ⟨_, rfl⟩) (by simp [Term.operands]) ?_
  intro position rest stops small
  have smallItems : ∀ part ∈ parts, part.2.depth ≤ maxDepth := fun part member =>
    depth_operand_le (List.mem_cons_of_mem _ (List.mem_map_of_mem member)) small
  obtain ⟨position', readItems⟩ := listInParens_eq some items smallItems position rest
  refine ⟨position', ?_⟩
  show (listInParens (nested (levels + 1)).disjunction _).bind _ = _
  rw [readItems]
  exact finish_eq (term :: parts.map Prod.snd) rfl small _

theorem Completes.likeText (negated : Bool) {text : String} {clause : List Token}
    {escape : Option Char} (first : Completes levels .sum tokens term)
    (escapes : Escapes clause escape)
    (compiles : ∃ test, Pattern.compile ⟨text, escape⟩ = .ok test) :
    Completes levels .test (tokens ++ (notIf negated ++ .keyword .like :: .string text :: clause))
      (negatedIf negated (.like term (.literal (.pattern ⟨text, escape⟩)))) := by
  refine Completes.word (fun stream => (likePattern (nested levels) stream).bind fun read =>
      Descent.finish .like [term.grown, read.1] read.2) first rfl (by decide)
    (fun _ _ => by cases negated <;> exact ⟨_, rfl⟩) (by simp [Term.operands]) ?_
  intro position rest stops small
  have readLiteral := patternLiteral_eq_ok_iff.2 ⟨compiles, rfl⟩
  obtain ⟨position', readEscape⟩ := escapeClause_eq escapes (position + 1) stops
  refine ⟨position', ?_⟩
  have readPattern : likePattern (nested levels) ⟨position, .string text :: clause ++ rest⟩ =
      .ok ((Term.literal (.pattern ⟨text, escape⟩)).grown, ⟨position', rest⟩) := by
    show (escapeClause ⟨position + 1, clause ++ rest⟩).bind _ = _
    rw [readEscape]
    show (patternLiteral ⟨text, escape⟩).map _ = _
    rw [readLiteral]
    rfl
  show (likePattern (nested levels) _).bind _ = _
  rw [readPattern]
  exact finish_eq [term, .literal (.pattern ⟨text, escape⟩)] rfl small _

theorem Completes.like (negated : Bool) {tokens' : List Token} {pattern : Term}
    (first : Completes levels .sum tokens term) (second : Completes levels .sum tokens' pattern)
    (noText : ∀ text, tokens'.head? ≠ some (.string text)) (some : tokens' ≠ []) :
    Completes levels .test (tokens ++ (notIf negated ++ .keyword .like :: tokens'))
      (negatedIf negated (.like term pattern)) := by
  refine Completes.word (fun stream => (likePattern (nested levels) stream).bind fun read =>
      Descent.finish .like [term.grown, read.1] read.2) first rfl (by decide)
    (fun _ _ => by cases negated <;> exact ⟨_, rfl⟩) (by simp [Term.operands]) ?_
  intro position rest stops small
  have smallPattern : pattern.depth ≤ maxDepth := depth_operand_le (by simp [Term.operands]) small
  obtain ⟨position', read⟩ := second.reads position rest stops.sum smallPattern
  refine ⟨position', ?_⟩
  have readPattern : likePattern (nested levels) ⟨position, tokens' ++ rest⟩ =
      .ok (pattern.grown, ⟨position', rest⟩) := by
    unfold likePattern
    split
    case h_1 text head =>
      rw [List.head?_append_of_ne_nil _ some] at head
      exact absurd head (noText text)
    case h_2 => exact read
  show (likePattern (nested levels) _).bind _ = _
  rw [readPattern]
  exact finish_eq [term, pattern] rfl small _

theorem Completes.compare (operator : Comparison) {tokens' : List Token} {right : Term}
    (first : Completes levels .sum tokens term) (second : Completes levels .sum tokens' right) :
    Completes levels .test (tokens ++ .symbol (symbolOf operator) :: tokens')
      (.compare operator term right) := by
  intro position rest stops small
  have smallLeft : term.depth ≤ maxDepth := depth_operand_le (by simp [Term.operands]) small
  have smallRight : right.depth ≤ maxDepth := depth_operand_le (by simp [Term.operands]) small
  obtain ⟨middle, readLeft⟩ := first.reads position
    (.symbol (symbolOf operator) :: (tokens' ++ rest))
    (by rintro _ ⟨⟩; cases operator <;> rfl) smallLeft
  obtain ⟨position', readRight⟩ := second.reads (middle + 1) rest stops.sum smallRight
  refine ⟨position', ?_⟩
  have enters : testOf (nested levels) term.grown
      ⟨middle, .symbol (symbolOf operator) :: (tokens' ++ rest)⟩ =
      (sum (nested levels) ⟨middle + 1, tokens' ++ rest⟩).bind fun read =>
        Descent.finish (.compare operator) [term.grown, read.1] read.2 := by
    cases operator <;> rfl
  rw [List.append_assoc, List.cons_append]
  refine ((test_testOf readLeft (by simp)).trans enters).trans ?_
  show (rule (nested levels) .sum _).bind _ = _
  rw [readRight]
  exact finish_eq [term, right] rfl small _

/-! ## Factors and primaries -/

theorem Completes.plus (operand : Completes levels .factor tokens term) :
    Completes (levels + 1) .factor (.symbol .plus :: tokens) term := by
  intro position rest stops small
  obtain ⟨position', read⟩ := operand.reads (position + 1) rest stops small
  exact ⟨position', read⟩

theorem Completes.minus (operand : Completes levels .factor tokens term)
    (noNumber : ∀ text, tokens.head? ≠ some (.number text)) (some : tokens ≠ []) :
    Completes (levels + 1) .factor (.symbol .minus :: tokens) (.negate term) := by
  intro position rest stops small
  have smallOperand := depth_operand_le (List.mem_singleton_self term) small
  obtain ⟨position', read⟩ := operand.reads (position + 1) rest stops smallOperand
  refine ⟨position', ?_⟩
  have enters : factor (nested (levels + 1)) ⟨position, .symbol .minus :: (tokens ++ rest)⟩ =
      (rule (nested levels) .factor ⟨position + 1, tokens ++ rest⟩).bind fun read =>
        Descent.finish .negate [read.1] read.2 := by
    obtain ⟨first, more, rfl⟩ := List.exists_cons_of_ne_nil some
    cases first with
    | number text => exact absurd rfl (noNumber text)
    | _ => rfl
  refine enters.trans ?_
  rw [read]
  exact finish_eq [term] rfl small _

theorem Completes.minusNumber {text : String} {number : Numeral}
    (writes : Writes ("-" ++ text) number) :
    Completes levels .factor [.symbol .minus, .number text] (.literal (.number number)) := by
  intro position rest _ _
  refine ⟨position + 2, ?_⟩
  show (numberLiteral ("-" ++ text)).map _ = _
  rw [numberLiteral_eq_ok_iff.2 ⟨number, writes, rfl⟩]
  rfl

theorem Completes.number {text : String} {number : Numeral} (writes : Writes text number) :
    Completes levels .primary [.number text] (.literal (.number number)) := by
  intro position rest _ _
  refine ⟨position + 1, ?_⟩
  show (numberLiteral text).map _ = _
  rw [numberLiteral_eq_ok_iff.2 ⟨number, writes, rfl⟩]
  rfl

/-- A token that is a leaf. -/
theorem Completes.leaf {token : Token} {kind : NodeKind} (made : kind.term? [] = some term)
    (enters : ∀ position rest, primary (nested levels) ⟨position, token :: rest⟩ =
      Descent.finish kind [] ⟨position + 1, rest⟩) :
    Completes levels .primary [token] term := by
  intro position rest _ small
  exact ⟨position + 1, (enters position rest).trans (finish_eq [] made small _)⟩

theorem Completes.any {parts : List (List Token × Term)} (some : parts ≠ [])
    (items : ∀ part ∈ parts, Completes levels .disjunction part.1 part.2) :
    Completes (levels + 1) .primary (.keyword .any :: listed (parts.map Prod.fst))
      (.any (parts.map Prod.snd)) := by
  intro position rest _ small
  have smallItems : ∀ part ∈ parts, part.2.depth ≤ maxDepth := fun part member =>
    depth_operand_le (List.mem_map_of_mem member) small
  obtain ⟨position', readItems⟩ := listInParens_eq some items smallItems (position + 1) rest
  refine ⟨position', ?_⟩
  show (listInParens (nested (levels + 1)).disjunction
    ⟨position + 1, listed (parts.map Prod.fst) ++ rest⟩).bind _ = _
  rw [readItems]
  exact finish_eq _ (term?_any some) small _

theorem Completes.parens (inside : Completes levels .disjunction tokens term) :
    Completes (levels + 1) .primary (.symbol .leftParen :: (tokens ++ [.symbol .rightParen]))
      term := by
  intro position rest _ small
  obtain ⟨position', read⟩ := inside.reads (position + 1) (.symbol .rightParen :: rest)
    (by rintro _ ⟨⟩; rfl) small
  refine ⟨position' + 1, ?_⟩
  have split : .symbol .leftParen :: (tokens ++ [.symbol .rightParen]) ++ rest =
      .symbol .leftParen :: (tokens ++ .symbol .rightParen :: rest) := by simp
  rw [split]
  show (rule (nested levels) .disjunction
    ⟨position + 1, tokens ++ .symbol .rightParen :: rest⟩).bind _ = _
  rw [read]
  rfl

/-- **What is derived is read.** -/
theorem Derives.completes {category : Category} (derives : Derives levels category tokens term) :
    Completes levels category tokens term := by
  have nonempty {levels : Nat} {category : Category} {tokens : List Token} {term : Term}
      (derives : Derives levels category tokens term) : tokens ≠ [] := by
    rintro rfl
    obtain ⟨_, ⟨⟩, _⟩ := derives.opens
  induction derives with
  | alone includes derives ih => exact .alone includes derives.opens ih
  | chain includes joins _ _ first second => exact .chain includes joins first second
  | not _ ih => exact .not ih
  | isNull negated _ ih => exact .isNull negated ih
  | isTruth negated b _ ih => exact .isTruth negated b ih
  | between negated _ _ _ first second third => exact .between negated first second third
  | inList negated _ some _ _ first items => exact .inList negated some first items
  | likeText negated _ escapes compiles first => exact .likeText negated first escapes compiles
  | like negated _ derives noText first second =>
    exact .like negated first second noText (nonempty derives)
  | compare operator _ _ first second => exact .compare operator first second
  | plus _ ih => exact .plus ih
  | minus derives noNumber ih => exact .minus ih noNumber (nonempty derives)
  | minusNumber writes => exact .minusNumber writes
  | number writes => exact .number writes
  | string => exact .leaf rfl fun _ _ => rfl
  | truth b =>
    have made : (NodeKind.literal (.boolean b)).term? [] = some (.literal (.boolean b)) := rfl
    exact .leaf made fun _ _ => by cases b <;> rfl
  | property => exact .leaf rfl fun _ _ => rfl
  | any _ some _ items => exact .any some items
  | parens _ ih => exact .parens ih

end Rules

end Sift.Grammar
