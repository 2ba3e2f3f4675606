import Sift.Proofs.Language.Steps

/-!
# Where a category ends

A rule of the descent goes on as long as the next token continues what it reads.  Which tokens these
are depends on the category alone, and a stronger category has fewer of them.  So an operator that
continues a chain ends the operand in front of it, and what ends a chain ends its last operand.
-/

set_option autoImplicit false

open Sift.Descent
open Sift.Parser (productOperator? sumOperator? comparison?)

namespace Sift.Grammar

/-- The tokens that continue a product. -/
def continuesProduct (token : Token) : Bool :=
  (productOperator? token).isSome

/-- The tokens that continue a sum. -/
def continuesSum (token : Token) : Bool :=
  continuesProduct token || (sumOperator? token).isSome

/-- The tokens that continue a test. -/
def continuesTest : Token → Bool
  | .keyword .is | .keyword .not | .keyword .between | .keyword .inList | .keyword .like
  | .keyword .escape => true
  | token => continuesSum token || (comparison? token).isSome

/-- The tokens that continue a category. -/
def Category.continues : Category → Token → Bool
  | .primary, _ | .factor, _ => false
  | .product, token => continuesProduct token
  | .sum, token => continuesSum token
  | .test, token | .negation, token => continuesTest token
  | .conjunction, token => continuesTest token || token == .keyword .and
  | .disjunction, token => continuesTest token || token == .keyword .and || token == .keyword .or

/-- The next token does not continue a category. -/
def Stops (category : Category) (rest : List Token) : Prop :=
  ∀ token ∈ rest.head?, category.continues token = false

/-- The category of the operands of a chain; the others are no chains. -/
def Category.operand : Category → Category
  | .disjunction => .conjunction
  | .conjunction => .negation
  | .sum => .product
  | .product => .factor
  | category => category

theorem continuesTest_of_continuesSum {token : Token} (continues : continuesSum token = true) :
    continuesTest token = true := by
  unfold continuesTest
  split <;> simp [continues]

theorem Stops.sum {rest : List Token} (stops : Stops .test rest) : Stops .sum rest := by
  intro token first
  have ends : continuesTest token = false := stops token first
  by_contra continues
  rw [continuesTest_of_continuesSum (Bool.not_eq_false _ ▸ continues)] at ends
  cases ends

/-- What ends a chain ends its last operand. -/
theorem Stops.operand {category : Category} {rest : List Token} (stops : Stops category rest) :
    Stops category.operand rest := by
  intro token first
  have ends := stops token first
  cases category <;>
    simp_all [Category.operand, Category.continues, continuesSum]

/-- An operator of a chain ends the operand before it. -/
theorem Joins.stops {category part : Category} {token : Token} {make : Term → Term → Term}
    (joins : Joins category token make) (includes : category.Includes part) (rest : List Token) :
    part = category.operand ∧ Stops part (token :: rest) := by
  cases joins <;> cases includes <;> refine ⟨rfl, ?_⟩ <;> rintro _ ⟨⟩ <;> rfl

/-- What a category cannot begin with does not stand in front of it. -/
theorem head?_append_of_opens {category : Category} {tokens : List Token}
    (opens : ∃ token ∈ tokens.head?, category.opens token = true) {token : Token}
    (closed : category.opens token = false) (rest : List Token) :
    (tokens ++ rest).head? ≠ some token := by
  obtain ⟨first, isFirst, opens⟩ := opens
  rw [List.head?_append, Option.mem_def.1 isFirst]
  rintro ⟨⟩
  rw [closed] at opens
  cases opens

/-- A word that does not continue a sum ends it, negated or not. -/
theorem stops_notIf {negated : Bool} {token : Token} {rest : List Token}
    (ends : continuesSum token = false) : Stops .sum (notIf negated ++ token :: rest) := by
  cases negated with
  | false =>
    rintro _ ⟨⟩
    exact ends
  | true =>
    rintro _ ⟨⟩
    rfl

end Sift.Grammar
