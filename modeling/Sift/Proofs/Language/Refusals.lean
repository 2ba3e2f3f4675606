import Sift.Proofs.Language.Sentences

/-!
# What the parser refuses

A text may be refused for what it says: because it cannot be cut into tokens, because a token is
not the one expected, or because it is nested too deep or has a pattern that does not compile.  The
builder has other reasons to refuse a node or a tree, and those would be the fault of the parser:
too few or too many operands, nodes that are not there, that have a parent already or that are left
over.  None of them ever comes up (`ParseError.Foreseen`).

The parser fails with what the descent fails with, so the rules of the descent are gone through
once more.  Every rule is careful: whatever it fails with is foreseen, provided that the rules which
open a new level are careful too (`CarefulBelow`).
-/

set_option autoImplicit false

open Sift.Descent
open Sift.Parser (Stream parseExpression)

namespace Sift

variable [Engine]

/-- An error that a text can be at fault for. -/
def ParseError.Foreseen : ParseError → Prop
  | .build .tooDeep => True
  | .build (.invalidPattern text message) =>
    ∃ escape, Pattern.compile ⟨text, escape⟩ = .error message
  | .build _ => False
  | _ => True

namespace Grammar

/-! ## Careful computations -/

section Combinators

variable {α β : Type}

/-- Whatever a computation fails with is foreseen. -/
def Careful (result : Except ParseError α) : Prop :=
  ∀ ⦃error⦄, result = .error error → error.Foreseen

theorem careful_ok (value : α) : Careful (.ok value) :=
  nofun

theorem careful_error {error : ParseError} (foreseen : error.Foreseen) :
    Careful (.error error : Except ParseError α) := by
  rintro _ ⟨⟩
  exact foreseen

theorem Careful.bind {result : Except ParseError α} {next : α → Except ParseError β}
    (first : Careful result) (second : ∀ value, result = .ok value → Careful (next value)) :
    Careful (result.bind next) := by
  cases result with
  | error error => exact careful_error (first rfl)
  | ok value => exact second value rfl

theorem Careful.map {result : Except ParseError α} (careful : Careful result) (f : α → β) :
    Careful (result.map f) := by
  cases result with
  | error error => exact careful_error (careful rfl)
  | ok value => exact careful_ok _

end Combinators

/-! ## Steps -/

/-- A node over as many operands as it takes can only be too deep. -/
theorem careful_grow {kind : NodeKind} {operands : List Grown}
    (made : (kind.term? (operands.map Grown.term)).isSome = true) :
    Careful (grow kind operands) := by
  intro error failed
  obtain ⟨cause, refused, rfl⟩ := mapError_eq_error_iff.1 failed
  obtain ⟨term, made⟩ := Option.isSome_iff_exists.1 made
  rw [Grown.node, made] at refused
  dsimp only at refused
  split_ifs at refused
  obtain rfl := Except.error.inj refused
  trivial

theorem careful_finish {kind : NodeKind} {operands : List Grown}
    (made : (kind.term? (operands.map Grown.term)).isSome = true) (stream : Parser.Stream) :
    Careful (Descent.finish kind operands stream) :=
  (careful_grow made).map _

theorem careful_expectSymbol (stream : Parser.Stream) (symbol : Symbol) :
    Careful (stream.expectSymbol symbol) := by
  unfold Stream.expectSymbol
  split_ifs
  · exact careful_ok _
  · exact careful_error trivial

theorem careful_expectKeyword (stream : Parser.Stream) (keyword : Keyword) :
    Careful (stream.expectKeyword keyword) := by
  unfold Stream.expectKeyword
  split_ifs
  · exact careful_ok _
  · exact careful_error trivial

theorem careful_numberLiteral (text : String) : Careful (numberLiteral text) := by
  unfold numberLiteral
  split
  · exact careful_grow rfl
  · exact careful_error trivial

theorem careful_patternLiteral (pattern : Pattern) : Careful (patternLiteral pattern) := by
  unfold patternLiteral
  split
  · exact careful_grow rfl
  · rename_i message refused
    exact careful_error ⟨pattern.escape, refused⟩

theorem Careful.negateIf {negated : Bool} {test : Except ParseError (Grown × Parser.Stream)}
    (careful : Careful test) : Careful (negateIf negated test) := by
  unfold Descent.negateIf
  split_ifs
  · exact careful.bind fun _ _ => careful_finish rfl _
  · exact careful

/-! ## Chains and lists -/

/-- Whatever a rule fails with is foreseen. -/
def CarefulRule (rule : Rule) : Prop :=
  ∀ stream, Careful (rule stream)

theorem careful_chainFrom {category : Category} {operand : Rule}
    {operator? : Token → Option NodeKind} (operators : Operators category operator?)
    (careful : CarefulRule operand) (left : Grown) (stream : Parser.Stream) :
    Careful (chainFrom operand operator? left stream) := by
  have grows {kind : NodeKind} {token : Token} (known : operator? token = some kind)
      (left right : Grown) : Careful (grow kind [left, right]) := by
    obtain ⟨make, _, made⟩ := operators known
    exact careful_grow (by simp [made])
  fun_induction chainFrom operand operator? left stream with
  | case1 => exact careful_ok _
  | case2 left stream kind isOperator error failed => exact careful_error (careful _ failed)
  | case3 left stream kind isOperator right next readRight error failed =>
    obtain ⟨token, _, known⟩ := Option.bind_eq_some_iff.1 isOperator
    exact careful_error (grows known left right failed)
  | case4 _ _ _ _ _ _ _ _ _ _ ih => exact ih
  | case5 => exact careful_ok _

theorem careful_chain {category : Category} {operand : Rule}
    {operator? : Token → Option NodeKind} (operators : Operators category operator?)
    (careful : CarefulRule operand) : CarefulRule (chain operand operator?) :=
  fun stream => (careful stream).bind fun _ _ => careful_chainFrom operators careful _ _

theorem careful_items {item : Rule} (careful : CarefulRule item) (stream : Parser.Stream) :
    Careful (items item stream) := by
  fun_induction items item stream with
  | case1 stream error failed => exact careful_error (careful _ failed)
  | case2 _ _ _ _ _ ih => exact ih.map _
  | case3 => exact careful_ok _

theorem careful_listInParens {item : Rule} (careful : CarefulRule item) (stream : Parser.Stream) :
    Careful (listInParens item stream) :=
  (careful_expectSymbol _ _).bind fun _ _ => (careful_items careful _).bind fun _ _ =>
    (careful_expectSymbol _ _).bind fun _ _ => careful_ok _

omit [Engine] in
/-- A list that was read is not empty. -/
theorem ne_nil_of_listInParens {item : Rule} {stream next : Parser.Stream} {operands : List Grown}
    (read : listInParens item stream = .ok (operands, next)) : operands ≠ [] := by
  obtain ⟨_, _, read⟩ := do_eq_ok_iff.1 read
  obtain ⟨⟨found, middle⟩, readItems, read⟩ := do_eq_ok_iff.1 read
  obtain ⟨_, _, read⟩ := do_eq_ok_iff.1 read
  obtain ⟨rfl, rfl⟩ := Prod.mk.inj (Except.ok.inj read)
  rw [items] at readItems
  split at readItems
  · cases readItems
  · split_ifs at readItems
    · obtain ⟨_, _, same⟩ := map_eq_ok_iff.1 readItems
      obtain ⟨rfl, _⟩ := Prod.mk.inj same
      exact List.cons_ne_nil _ _
    · obtain ⟨rfl, _⟩ := Prod.mk.inj (Except.ok.inj readItems)
      exact List.cons_ne_nil _ _

/-! ## The rules of one level -/

/-- The rules that open a new level are careful. -/
structure CarefulBelow (inner : Nested) : Prop where
  disjunction : CarefulRule inner.disjunction
  negation : CarefulRule inner.negation
  factor : CarefulRule inner.factor

variable {inner : Nested} (below : CarefulBelow inner)
include below

theorem careful_primary : CarefulRule (primary inner) := by
  intro stream
  unfold primary
  split
  case h_1 => exact (careful_numberLiteral _).map _
  case h_2 | h_3 | h_4 | h_5 => exact careful_finish rfl _
  case h_6 =>
    refine (careful_listInParens below.disjunction _).bind fun ⟨operands, next⟩ found => ?_
    obtain ⟨first, rest, rfl⟩ := List.exists_cons_of_ne_nil (ne_nil_of_listInParens found)
    exact careful_finish rfl _
  case h_7 =>
    exact (below.disjunction _).bind fun _ _ => (careful_expectSymbol _ _).bind fun _ _ =>
      careful_ok _
  case h_8 => exact careful_error trivial

theorem careful_factor : CarefulRule (factor inner) := by
  intro stream
  unfold factor
  split
  · exact below.factor _
  · split
    · exact (careful_numberLiteral _).map _
    · exact (below.factor _).bind fun _ _ => careful_finish rfl _
  · exact careful_primary below _

theorem careful_sum : CarefulRule (sum inner) :=
  careful_chain operators_sum (careful_chain operators_product (careful_factor below))

/-! ## Tests -/

omit below in
theorem careful_truthTest (left : Grown) (negated : Bool) (stream : Parser.Stream) :
    Careful (truthTest left negated stream) := by
  unfold truthTest
  extract_lets against
  have careful (b : Bool) : Careful (against b) :=
    (careful_grow rfl).bind fun _ _ => careful_finish rfl _
  split
  · exact (careful_finish rfl _).negateIf
  · exact careful true
  · exact careful false
  · exact careful_error trivial

omit below in
theorem careful_escapeClause (stream : Parser.Stream) : Careful (escapeClause stream) := by
  unfold escapeClause
  split_ifs
  · split
    · split
      · exact careful_ok _
      · exact careful_error trivial
    · exact careful_error trivial
  · exact careful_ok _

theorem careful_between (value : Grown) : CarefulRule (between inner value) :=
  fun _ => (careful_sum below _).bind fun _ _ => (careful_expectKeyword _ _).bind fun _ _ =>
    (careful_sum below _).bind fun _ _ => careful_finish rfl _

theorem careful_likePattern : CarefulRule (likePattern inner) := by
  intro stream
  unfold likePattern
  split
  · exact (careful_escapeClause _).bind fun _ _ => (careful_patternLiteral _).map _
  · exact careful_sum below _

theorem careful_testOf (left : Grown) : CarefulRule (testOf inner left) := by
  intro stream
  unfold testOf
  dsimp only
  generalize (if (stream.rest.head? == some (.keyword .not)) = true then stream.advance
    else stream) = start
  split
  · exact (careful_between below left _).negateIf
  · exact Careful.negateIf
      ((careful_listInParens below.disjunction _).bind fun _ _ => careful_finish rfl _)
  · exact Careful.negateIf
      ((careful_likePattern below _).bind fun _ _ => careful_finish rfl _)
  · split
    · exact (careful_sum below _).bind fun _ _ => careful_finish rfl _
    · exact careful_ok _

theorem careful_test : CarefulRule (test inner) := by
  intro stream
  refine (careful_sum below stream).bind fun ⟨left, next⟩ _ => ?_
  dsimp only
  split_ifs
  · exact careful_truthTest left true _
  · exact careful_truthTest left false _
  · exact careful_testOf below left next

/-! ## All levels -/

theorem careful_negation : CarefulRule (negation inner) := by
  intro stream
  unfold negation
  split_ifs
  · exact (below.negation _).bind fun _ _ => careful_finish rfl _
  · exact careful_test below stream

theorem careful_disjunction : CarefulRule (disjunction inner) :=
  careful_chain operators_disjunction (careful_chain operators_conjunction (careful_negation below))

omit below in
theorem careful_nested (levels : Nat) : CarefulBelow (nested levels) := by
  induction levels with
  | zero => exact ⟨fun _ => careful_error trivial, fun _ => careful_error trivial,
      fun _ => careful_error trivial⟩
  | succ levels ih => exact ⟨careful_disjunction ih, careful_negation ih, careful_factor ih⟩

omit below in
theorem careful_parseTokens (tokens : List Token) : Careful (parseTokens tokens) := by
  refine ((careful_nested maxDepth).disjunction _).bind fun ⟨grown, stream⟩ _ => ?_
  dsimp only
  split
  · exact careful_ok _
  · exact careful_error trivial

omit below in
/-- **The parser fails with foreseen errors only.**  What it has read can always be finished. -/
theorem careful_parseExpression (tokens : List Token) : Careful (parseExpression tokens) := by
  rw [Parser.parseExpression_eq]
  refine (careful_parseTokens tokens).bind fun term read => ?_
  obtain ⟨expression, parsed, _⟩ := (parseTokens_eq_ok_iff.1 read).exists_parseExpression
  rw [Parser.parseExpression_eq] at parsed
  obtain ⟨term', read', finished⟩ := bind_eq_ok_iff.1 parsed
  obtain rfl := Except.ok.inj (read.symm.trans read')
  rw [finished]
  exact careful_ok _

end Grammar

end Sift
