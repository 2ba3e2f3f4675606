import Sift.Proofs.Language.Descent
import Sift.Proofs.Language.Grammar

/-!
# Steps of the descent

The rules of the descent are made of few kinds of step: a token is expected, a node grows over terms
that were read, a chain goes on with an operator.  Here is what each of them does when it succeeds;
both directions of the proof that the parser accepts its grammar rest on that.
-/

set_option autoImplicit false

open Sift.Descent
open Sift.Parser (Stream numeral? productOperator? sumOperator? comparison? connective?)

namespace Sift.Grammar

/-! ## Tokens -/

theorem rest_eq_of_head? {stream : Stream} {token : Token}
    (first : stream.rest.head? = some token) : stream.rest = token :: stream.advance.rest := by
  obtain ⟨position, rest⟩ := stream
  cases rest with
  | nil => cases first
  | cons found rest =>
    obtain rfl := Option.some.inj first
    rfl

theorem expectSymbol_eq_ok_iff {stream next : Stream} {symbol : Symbol} :
    stream.expectSymbol symbol = .ok next ↔
      stream.rest.head? = some (.symbol symbol) ∧ next = stream.advance := by
  unfold Stream.expectSymbol
  split_ifs with found <;> simp [found, eq_comm]

theorem expectKeyword_eq_ok_iff {stream next : Stream} {keyword : Keyword} :
    stream.expectKeyword keyword = .ok next ↔
      stream.rest.head? = some (.keyword keyword) ∧ next = stream.advance := by
  unfold Stream.expectKeyword
  split_ifs with found <;> simp [found, eq_comm]

/-! ## Nodes -/

theorem grow_eq_ok_iff {kind : NodeKind} (operands : List Term) {term : Term}
    (made : kind.term? operands = some term) {grown : Grown} :
    grow kind (operands.map Term.grown) = .ok grown ↔
      grown = term.grown ∧ term.depth ≤ maxDepth := by
  rw [grow, mapError_eq_ok_iff, Grown.node_eq_ok_iff_grown made]

/-- A node over terms that were read. -/
theorem finish_eq_ok_iff {kind : NodeKind} (operands : List Term) {term : Term}
    (made : kind.term? operands = some term) {stream next : Stream} {grown : Grown} :
    Descent.finish kind (operands.map Term.grown) stream = .ok (grown, next) ↔
      (grown = term.grown ∧ term.depth ≤ maxDepth) ∧ next = stream := by
  rw [Descent.finish, map_eq_ok_iff]
  simp only [grow_eq_ok_iff operands made, Prod.mk.injEq]
  constructor
  · rintro ⟨_, found, rfl, rfl⟩
    exact ⟨found, rfl⟩
  · rintro ⟨found, rfl⟩
    exact ⟨grown, found, rfl, rfl⟩

theorem depth_literal_le (content : Literal) : (Term.literal content).depth ≤ maxDepth := by
  rw [Term.depth_eq]
  exact (by decide : 1 ≤ maxDepth)

theorem numberLiteral_eq_ok_iff {text : String} {grown : Grown} :
    numberLiteral text = .ok grown ↔
      ∃ number, Writes text number ∧ grown = (Term.literal (.number number)).grown := by
  have grows (number : Numeral) : grow (.literal (.number number)) [] = .ok grown ↔
      grown = (Term.literal (.number number)).grown ∧ _ := grow_eq_ok_iff [] rfl
  simp only [writes_iff]
  unfold numberLiteral
  cases numeral? text with
  | none => exact ⟨nofun, fun ⟨_, found, _⟩ => nomatch found⟩
  | some number =>
    simp only [grows, depth_literal_le, and_true, Option.some.injEq, exists_eq_left']

/-- The literal of a pattern can be read exactly if the pattern compiles. -/
theorem patternLiteral_eq_ok_iff [Engine] {pattern : Pattern} {grown : Grown} :
    patternLiteral pattern = .ok grown ↔
      (∃ test, pattern.compile = .ok test) ∧ grown = (Term.literal (.pattern pattern)).grown := by
  have grows : grow (.literal (.pattern pattern)) [] = .ok grown ↔
      grown = (Term.literal (.pattern pattern)).grown ∧ _ := grow_eq_ok_iff [] rfl
  unfold patternLiteral
  cases pattern.compile with
  | error message => exact ⟨nofun, fun ⟨⟨_, found⟩, _⟩ => nomatch found⟩
  | ok test => simp [grows, depth_literal_le]

/-- A list that is not empty makes a term. -/
theorem term?_any {parts : List (List Token × Term)} (some : parts ≠ []) :
    NodeKind.any.term? (parts.map Prod.snd) = Option.some (.any (parts.map Prod.snd)) := by
  obtain ⟨first, rest, rfl⟩ := List.exists_cons_of_ne_nil some
  rfl

/-! ## Operators -/

/-- Every operator of a chain is one of the operators of a category. -/
def Operators (category : Category) (operator? : Token → Option NodeKind) : Prop :=
  ∀ {token kind}, operator? token = some kind → ∃ make, Joins category token make ∧
    ∀ left right, kind.term? [left, right] = some (make left right)

theorem operators_product : Operators .product productOperator? := by
  intro token kind known
  unfold productOperator? at known
  split at known <;> cases known
  · exact ⟨_, .multiply, fun _ _ => rfl⟩
  · exact ⟨_, .divide, fun _ _ => rfl⟩
  · exact ⟨_, .modulus, fun _ _ => rfl⟩

theorem operators_sum : Operators .sum sumOperator? := by
  intro token kind known
  unfold sumOperator? at known
  split at known <;> cases known
  · exact ⟨_, .add, fun _ _ => rfl⟩
  · exact ⟨_, .subtract, fun _ _ => rfl⟩

theorem operators_conjunction : Operators .conjunction (connective? .and) := by
  intro token kind known
  unfold connective? at known
  split at known <;> cases known
  exact ⟨_, .and, fun _ _ => rfl⟩

theorem operators_disjunction : Operators .disjunction (connective? .or) := by
  intro token kind known
  unfold connective? at known
  split at known <;> cases known
  exact ⟨_, .or, fun _ _ => rfl⟩

/-- A comparison is written with its symbol. -/
theorem eq_symbolOf_of_comparison? {token : Token} {operator : Comparison}
    (known : comparison? token = some operator) : token = .symbol (symbolOf operator) := by
  unfold comparison? at known
  split at known <;> cases known <;> rfl

end Sift.Grammar
