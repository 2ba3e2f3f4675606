import Sift.Expression.Term

/-!
# The structure of terms

A term is its kind over its operands (`Term.term?_eq_some`), and induction on terms has one case for
each constructor, with hypotheses for all operands.  The operands of a run are those of its left
side followed by the right side (`runOf_eq_append`), which is what every law about runs is an
induction on.
-/

set_option autoImplicit false

namespace Sift

namespace Term

/-- **Induction on terms.**  The operands of lists have the induction hypothesis each. -/
@[induction_eliminator]
theorem induction {motive : Term → Prop}
    (property : ∀ name, motive (property name))
    (literal : ∀ content, motive (literal content))
    (connect : ∀ operator left right, motive left → motive right →
      motive (connect operator left right))
    (not : ∀ operand, motive operand → motive (not operand))
    (isNull : ∀ operand, motive operand → motive (isNull operand))
    (between : ∀ value low high, motive value → motive low → motive high →
      motive (between value low high))
    (inList : ∀ value items, motive value → (∀ item ∈ items, motive item) →
      motive (inList value items))
    (like : ∀ subject pattern, motive subject → motive pattern → motive (like subject pattern))
    (compare : ∀ operator left right, motive left → motive right →
      motive (compare operator left right))
    (any : ∀ operands, (∀ operand ∈ operands, motive operand) → motive (any operands))
    (arithmetic : ∀ operator left right, motive left → motive right →
      motive (arithmetic operator left right))
    (negate : ∀ operand, motive operand → motive (negate operand))
    (term : Term) : motive term :=
  @Term.rec motive (fun terms => ∀ term ∈ terms, motive term)
    property literal connect not isNull between inList like compare any arithmetic negate
    (fun _ member => nomatch member)
    (fun _ _ first rest _ member => by
      rcases List.mem_cons.1 member with rfl | later
      · exact first
      · exact rest _ later)
    term

/-! ## Kinds and operands -/

/-- A kind makes a term exactly of the operands that the term then has. -/
theorem term?_eq_some {kind : NodeKind} {operands : List Term} {term : Term}
    (made : kind.term? operands = some term) : term.kind = kind ∧ term.operands = operands := by
  revert made
  fun_cases NodeKind.term? kind operands <;> intro made <;> cases made <;> exact ⟨rfl, rfl⟩

/-- Induction on terms with one hypothesis for all operands, whatever the kind. -/
theorem operandInduction {motive : Term → Prop}
    (step : ∀ term : Term, (∀ operand ∈ term.operands, motive operand) → motive term)
    (term : Term) : motive term := by
  induction term with
  | property name => exact step _ nofun
  | literal content => exact step _ nofun
  | connect _ _ _ left right | compare _ _ _ left right | arithmetic _ _ _ left right
  | like _ _ left right =>
    exact step _ (List.forall_mem_cons.2 ⟨left, List.forall_mem_singleton.2 right⟩)
  | not _ operand | isNull _ operand | negate _ operand =>
    exact step _ (List.forall_mem_singleton.2 operand)
  | between _ _ _ value low high =>
    exact step _ (List.forall_mem_cons.2
      ⟨value, List.forall_mem_cons.2 ⟨low, List.forall_mem_singleton.2 high⟩⟩)
  | inList _ _ value items => exact step _ (List.forall_mem_cons.2 ⟨value, items⟩)
  | any _ operands => exact step _ operands

/-- The names of the properties in a term. -/
inductive Mentions (name : String) : Term → Prop where
  | here : Mentions name (.property name)
  | inside {term operand : Term} (member : operand ∈ term.operands)
      (mentioned : Mentions name operand) : Mentions name term

/-- A term whose nodes are all of permitted kinds. -/
inductive Only (permitted : NodeKind → Prop) : Term → Prop where
  | node {term : Term} (root : permitted term.kind)
      (operands : ∀ operand ∈ term.operands, Only permitted operand) : Only permitted term

/-! ## Runs -/

theorem runBefore_append (operator : Connective) (term : Term) (later : List Term) :
    term.runBefore operator later = term.runBefore operator [] ++ later := by
  induction term generalizing later with
  | connect operator' left right ihLeft =>
    by_cases same : operator' = operator
    · simp only [runBefore, if_pos same]
      rw [ihLeft (right :: later), ihLeft [right], List.append_assoc]
      rfl
    · simp only [runBefore, if_neg same]
      rfl
  | _ => rfl

/-- The operands of a run are those of its left side and then its right side. -/
theorem runOf_eq_append (operator : Connective) (left right : Term) :
    runOf operator left right = left.runBefore operator [] ++ [right] :=
  runBefore_append operator left [right]

/-- Before the end of a run stands the run of its left side, if that is a node of the
connective, and else the left side alone. -/
theorem runBefore_nil_cases (operator : Connective) (term : Term) :
    (∃ left right, term = .connect operator left right ∧
      term.runBefore operator [] = runOf operator left right) ∨
    term.runBefore operator [] = [term] := by
  cases term with
  | connect operator' left right =>
    by_cases same : operator' = operator
    · subst same
      exact Or.inl ⟨left, right, rfl, by simp only [runBefore, runOf, if_true]⟩
    · exact Or.inr (by simp only [runBefore, if_neg same])
  | _ => exact Or.inr rfl

end Term

end Sift
