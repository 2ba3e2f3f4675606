import Sift.Proofs.Expression.Arena

/-!
# The depth of terms

The builder keeps the depth of every node and computes it from those of the children.  For a term
as a whole this is a recursion on its operands (`Term.depth`).  So a node over operands that grew
from their terms has grown from its own term, provided that it is not too deep
(`Grown.node_eq_ok_iff_grown`), and no operand is deeper than the term (`Term.depth_operand_le`).
-/

set_option autoImplicit false

namespace Sift

namespace Term

theorem sizeOf_lt_of_mem_operands {term operand : Term} (member : operand ∈ term.operands) :
    sizeOf operand < sizeOf term := by
  cases term with
  | inList value items =>
    rcases List.mem_cons.1 member with rfl | inItems
    · simp only [inList.sizeOf_spec]
      omega
    · have := List.sizeOf_lt_of_mem inItems
      simp only [inList.sizeOf_spec]
      omega
  | any operands =>
    have := List.sizeOf_lt_of_mem (show operand ∈ operands from member)
    simp only [any.sizeOf_spec]
    omega
  | _ => simp_all [operands] <;> rcases member with rfl | rfl | rfl <;> omega

/-- The nesting depth of a term, in which a run of a connective that leans to the left counts as one
level. -/
def depth (term : Term) : Nat :=
  nestingDepth term.kind (term.operands.attach.map fun operand => ⟨operand.val, operand.val.depth⟩)
termination_by sizeOf term
decreasing_by exact sizeOf_lt_of_mem_operands operand.property

/-- A term with its depth. -/
def grown (term : Term) : Grown :=
  ⟨term, term.depth⟩

theorem depth_eq (term : Term) :
    term.depth = nestingDepth term.kind (term.operands.map grown) := by
  rw [depth]
  exact congrArg (nestingDepth term.kind) (List.attach_map_val (f := grown))

end Term

/-- The largest depth among operands, or zero if there are none. -/
def deepest (depths : List Nat) : Nat :=
  depths.foldr max 0

/-- Operands are at most so deep exactly if the deepest one is. -/
theorem deepest_le_iff {depths : List Nat} {bound : Nat} :
    deepest depths ≤ bound ↔ ∀ depth ∈ depths, depth ≤ bound := by
  induction depths with
  | nil => simp [deepest]
  | cons first rest ih =>
    rw [List.forall_mem_cons, ← ih]
    exact Nat.max_le

/-- No operand is deeper than the node above it. -/
theorem depth_le_nestingDepth {kind : NodeKind} {operands : List Grown} {operand : Grown}
    (member : operand ∈ operands) : operand.depth ≤ nestingDepth kind operands := by
  fun_cases nestingDepth kind operands with
  | case1 operator left right continues =>
    simp only [List.mem_cons, List.not_mem_nil, or_false] at member
    rcases member with rfl | rfl
    · omega
    · omega
  | case2 operator left right ends =>
    simp only [List.mem_cons, List.not_mem_nil, or_false] at member
    rcases member with rfl | rfl
    · omega
    · omega
  | case3 kind =>
    have below : operand.depth ≤ deepest (operands.map Grown.depth) :=
      deepest_le_iff.1 (Nat.le_refl _) _ (List.mem_map_of_mem member)
    exact Nat.le_trans below (Nat.le_add_left _ 1)

theorem Term.depth_operand_le {term operand : Term} (member : operand ∈ term.operands) :
    operand.depth ≤ term.depth := by
  rw [term.depth_eq]
  exact depth_le_nestingDepth (List.mem_map_of_mem (f := grown) member)

/-- **A node over operands that have grown from their terms has grown from its term.** -/
theorem Grown.node_eq_ok_iff_grown {kind : NodeKind} {operands : List Term} {term : Term}
    (made : kind.term? operands = some term) {grown : Grown} :
    Grown.node kind (operands.map Term.grown) = .ok grown ↔
      grown = term.grown ∧ term.depth ≤ maxDepth := by
  obtain ⟨rfl, rfl⟩ := Term.term?_eq_some made
  have terms : (term.operands.map Term.grown).map Grown.term = term.operands := by
    rw [List.map_map]
    exact List.map_id _
  rw [Grown.node_eq_ok_iff, terms, made, ← term.depth_eq]
  constructor
  · rintro ⟨same, depth, small⟩
    obtain ⟨grownTerm, grownDepth⟩ := grown
    obtain rfl := Option.some.inj same
    obtain rfl : term.depth = grownDepth := depth
    exact ⟨rfl, small⟩
  · rintro ⟨rfl, small⟩
    exact ⟨rfl, rfl, small⟩

end Sift
