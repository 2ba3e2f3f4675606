import Sift.Proofs.Expression.Depth
import Sift.Proofs.Expression.Paths

/-!
# Terms laid out in a builder

A term is laid out in a builder operands first, from left to right, and its root last
(`Builder.insert`).  A term that is not too deep, and whose nodes all have as many operands as they
need, can be laid out in any builder (`Builder.insert_inserted`).  What that does is one relation
for terms and lists of terms (`Builder.Inserted`): the nodes that were there stay as they are, the
roots of the terms are new and have no parent, and every other new node has one.  In a builder that
was empty only one root is without a parent, so the term can be finished, and the nodes of the
expression show the term again (`Expression.exists_ofTerm`).
-/

set_option autoImplicit false

namespace Sift

/-! ## Showing a term -/

/-- The nodes from a position downwards show a term, kind by kind and operand by operand. -/
inductive Shows (nodes : Array Node) : Nat → Term → Prop where
  | node {id : Nat} {node : Node} {term : Term} (found : nodes[id]? = some node)
    (kind : node.kind = term.kind)
    (children : List.Forall₂ (Shows nodes) node.children term.operands) : Shows nodes id term

/-- In a forest every node shows the term it carries. -/
theorem Builder.Forest.shows {builder : Builder} (forest : builder.Forest) {term : Term} {id : Nat}
    (found : builder.termAt id = some term) : Shows builder.nodes id term := by
  induction term using Term.operandInduction generalizing id with
  | step term ih =>
    obtain ⟨node, foundNode, sameKind, children⟩ := forest.node_of_carries found
    refine .node foundNode sameKind (List.forall₂_iff_get.2 ⟨children.length_eq, ?_⟩)
    intro position inside inside'
    exact ih _ (List.getElem_mem inside') (children.get inside inside')

/-! ## Proper terms -/

/-- Every node of a term has as many operands as its kind takes.  Only a list can have too few. -/
inductive Term.Proper : Term → Prop where
  | node {term : Term} (fits : term.kind.arity.accepts term.operands.length = true)
    (operands : ∀ operand ∈ term.operands, Proper operand) : Proper term

theorem Term.term?_operands {term : Term}
    (fits : term.kind.arity.accepts term.operands.length = true) :
    term.kind.term? term.operands = some term := by
  cases term with
  | any operands =>
    cases operands with
    | nil => cases fits
    | cons first rest => rfl
  | _ => rfl

/-! ## Inserting -/

mutual
/-- Add the nodes of a term.  The result is the position of its root. -/
def Builder.insert : Term → Builder.Building Nat
  | .property name => Builder.node (.property name) []
  | .literal content => Builder.node (.literal content) []
  | .connect operator left right => do
    let left ← Builder.insert left
    let right ← Builder.insert right
    Builder.node (.connect operator) [left, right]
  | .not operand => do
    let operand ← Builder.insert operand
    Builder.node .not [operand]
  | .isNull operand => do
    let operand ← Builder.insert operand
    Builder.node .isNull [operand]
  | .between value low high => do
    let value ← Builder.insert value
    let low ← Builder.insert low
    let high ← Builder.insert high
    Builder.node .between [value, low, high]
  | .inList value items => do
    let value ← Builder.insert value
    let items ← Builder.insertAll items
    Builder.node .inList (value :: items)
  | .like subject pattern => do
    let subject ← Builder.insert subject
    let pattern ← Builder.insert pattern
    Builder.node .like [subject, pattern]
  | .compare operator left right => do
    let left ← Builder.insert left
    let right ← Builder.insert right
    Builder.node (.compare operator) [left, right]
  | .any operands => do
    let operands ← Builder.insertAll operands
    Builder.node .any operands
  | .arithmetic operator left right => do
    let left ← Builder.insert left
    let right ← Builder.insert right
    Builder.node (.arithmetic operator) [left, right]
  | .negate operand => do
    let operand ← Builder.insert operand
    Builder.node .negate [operand]

/-- Add the nodes of several terms, one term after the other. -/
def Builder.insertAll : List Term → Builder.Building (List Nat)
  | [] => pure []
  | term :: rest => do
    let id ← Builder.insert term
    let ids ← Builder.insertAll rest
    pure (id :: ids)
end

/-- The finished expression of a term. -/
def Expression.ofTerm (term : Term) : Except BuildError Expression :=
  match Builder.insert term .empty with
  | .ok root builder => builder.build root
  | .error error _ => .error error

theorem Expression.ofTerm_eq_ok_iff {term : Term} {expression : Expression} :
    ofTerm term = .ok expression ↔ ∃ root builder,
      Builder.insert term .empty = .ok root builder ∧ builder.build root = .ok expression := by
  unfold ofTerm
  cases Builder.insert term .empty with
  | error error builder => exact ⟨nofun, fun ⟨_, _, found, _⟩ => nomatch found⟩
  | ok root builder =>
    exact ⟨fun built => ⟨root, builder, rfl, built⟩, fun ⟨_, _, .refl _, built⟩ => built⟩

namespace Builder

/-- A builder that requests can lead to. -/
def Reachable (builder : Builder) : Prop :=
  ∃ requests, builder = after requests

theorem Reachable.forest {builder : Builder} (reachable : builder.Reachable) : builder.Forest := by
  obtain ⟨requests, rfl⟩ := reachable
  exact forest_after requests

theorem Reachable.node {builder builder' : Builder} {kind : NodeKind} {children : List Nat}
    {id : Nat} (reachable : builder.Reachable)
    (added : node kind children builder = .ok id builder') : builder'.Reachable := by
  obtain ⟨requests, rfl⟩ := reachable
  refine ⟨requests ++ [(kind, children)], ?_⟩
  rw [after_concat, Builder.step, added]

/-- A term is inserted operands first, its root last. -/
theorem insert_eq (term : Term) :
    insert term = insertAll term.operands >>= fun ids => node term.kind ids := by
  cases term <;>
    simp only [insert, insertAll, Term.operands, Term.kind, bind_assoc, pure_bind]

/-- No terms, and one term in front of others. -/
theorem insertAll_nil_eq_ok_iff {builder builder' : Builder} {ids : List Nat} :
    insertAll [] builder = .ok ids builder' ↔ ids = [] ∧ builder' = builder := by
  rw [insertAll]
  constructor
  · rintro ⟨⟩
    exact ⟨rfl, rfl⟩
  · rintro ⟨rfl, rfl⟩
    rfl

theorem insertAll_cons_eq_ok_iff {builder builder' : Builder} {term : Term} {rest : List Term}
    {ids : List Nat} :
    insertAll (term :: rest) builder = .ok ids builder' ↔
      ∃ id builder₁ idsRest, insert term builder = .ok id builder₁ ∧
        insertAll rest builder₁ = .ok idsRest builder' ∧ ids = id :: idsRest := by
  rw [insertAll]
  constructor
  · intro inserted
    obtain ⟨id, builder₁, first, inserted⟩ := run_bind_eq_ok_iff.1 inserted
    obtain ⟨idsRest, _, others, same⟩ := run_bind_eq_ok_iff.1 inserted
    cases same
    exact ⟨id, builder₁, idsRest, first, others, rfl⟩
  · rintro ⟨id, builder₁, idsRest, first, others, rfl⟩
    exact run_bind_eq_ok_iff.2 ⟨id, builder₁, first,
      run_bind_eq_ok_iff.2 ⟨idsRest, builder', others, rfl⟩⟩

/-- Terms were laid out in a builder, and these are the positions of their roots. -/
structure Inserted (builder builder' : Builder) (terms : List Term) (ids : List Nat) : Prop where
  grows : builder.nodes.size ≤ builder'.nodes.size
  before : ∀ id < builder.nodes.size, builder'.nodes[id]? = builder.nodes[id]?
  free : List.Forall₂ builder'.Free ids (terms.map Term.grown)
  fresh : ∀ id ∈ ids, builder.nodes.size ≤ id
  nodup : ids.Nodup
  attached : ∀ (id : Nat) (node : Node), builder.nodes.size ≤ id →
    builder'.nodes[id]? = some node → id ∉ ids → node.parent ≠ none
  reachable : builder.Reachable → builder'.Reachable

theorem Inserted.nil (builder : Builder) : Inserted builder builder [] [] where
  grows := Nat.le_refl _
  before _ _ := rfl
  free := .nil
  fresh _ member := nomatch member
  nodup := List.nodup_nil
  attached _ _ outside found _ :=
    absurd (Array.getElem?_eq_some_iff.1 found).1 (Nat.not_lt.2 outside)
  reachable := id

theorem Free.lt {builder : Builder} {id : Nat} {grown : Grown} (free : builder.Free id grown) :
    id < builder.nodes.size := by
  obtain ⟨_, found, _⟩ := free
  exact (Array.getElem?_eq_some_iff.1 found).1

/-- One term and then others. -/
theorem Inserted.cons {builder builder₁ builder₂ : Builder} {term : Term} {terms : List Term}
    {id : Nat} {ids : List Nat} (first : Inserted builder builder₁ [term] [id])
    (rest : Inserted builder₁ builder₂ terms ids) :
    Inserted builder builder₂ (term :: terms) (id :: ids) where
  grows := Nat.le_trans first.grows rest.grows
  before i inside := by
    rw [rest.before i (Nat.lt_of_lt_of_le inside first.grows), first.before i inside]
  free := by
    obtain ⟨node, found, detached, same⟩ := (List.forall₂_cons.1 first.free).1
    have inside := (Array.getElem?_eq_some_iff.1 found).1
    refine .cons ⟨node, ?_, detached, same⟩ rest.free
    rw [rest.before id inside, found]
  fresh := by
    refine List.forall_mem_cons.2 ⟨first.fresh id (List.mem_singleton_self id), ?_⟩
    exact fun id' member => Nat.le_trans first.grows (rest.fresh id' member)
  nodup := by
    refine List.nodup_cons.2 ⟨fun member => ?_, rest.nodup⟩
    have inside := (List.forall₂_cons.1 first.free).1.lt
    exact Nat.not_le.2 inside (rest.fresh id member)
  attached i node outside found notRoot := by
    obtain ⟨other, notRest⟩ := not_or.1 (mt List.mem_cons.2 notRoot)
    by_cases inside : i < builder₁.nodes.size
    · rw [rest.before i inside] at found
      exact first.attached i node outside found (by simpa using other)
    · exact rest.attached i node (Nat.not_lt.1 inside) found notRest
  reachable start := rest.reachable (first.reachable start)

/-- A node over operands that were laid out. -/
theorem Inserted.node {builder builder₁ builder₂ : Builder} {term : Term} {ids : List Nat}
    {id : Nat} (operands : Inserted builder builder₁ term.operands ids)
    (fits : term.kind.arity.accepts term.operands.length = true)
    (added : Builder.node term.kind ids builder₁ = .ok id builder₂) :
    Inserted builder builder₂ [term] [id] where
  grows := by
    have size := size_of_added added
    have grows := operands.grows
    omega
  before i inside := by
    rw [getElem?_before added (Nat.lt_of_lt_of_le inside operands.grows), operands.before i inside]
    have notChild : i ∉ ids := fun member => Nat.not_le.2 inside (operands.fresh i member)
    simp [notChild]
  free := by
    obtain ⟨grown, found, operands', free, grew⟩ := getElem?_added added
    have noEarlier : ∀ child ∈ ids, child ∉ [] := fun _ _ => List.not_mem_nil
    have same := (operands_eq_ok_iff.2 ⟨operands.nodup, noEarlier, free⟩).symm.trans
      (operands_eq_ok_iff.2 ⟨operands.nodup, noEarlier, operands.free⟩)
    obtain rfl := Except.ok.inj same
    obtain ⟨rfl, _⟩ := (Grown.node_eq_ok_iff_grown (Term.term?_operands fits)).1 grew
    exact .cons ⟨_, found, rfl, rfl⟩ .nil
  fresh := by
    rw [id_of_added added]
    simpa using operands.grows
  nodup := List.nodup_cons.2 ⟨List.not_mem_nil, List.nodup_nil⟩
  attached i node outside found notRoot := by
    rcases cases_of_added added found with ⟨rfl, _⟩ | ⟨_, node', before, _, _, _, parent⟩
    · exact absurd (List.mem_singleton_self i) notRoot
    · rw [parent]
      split_ifs with child
      · exact Option.some_ne_none id
      · exact operands.attached i node' outside before child
  reachable start := (operands.reachable start).node added

/-- Terms that can each be inserted can be inserted one after the other. -/
theorem insertAll_inserted {terms : List Term} (builder : Builder)
    (each : ∀ term ∈ terms, ∀ builder : Builder,
      ∃ id builder', insert term builder = .ok id builder' ∧
        Inserted builder builder' [term] [id]) :
    ∃ ids builder', insertAll terms builder = .ok ids builder' ∧
      Inserted builder builder' terms ids := by
  induction terms generalizing builder with
  | nil => exact ⟨[], builder, insertAll_nil_eq_ok_iff.2 ⟨rfl, rfl⟩, .nil builder⟩
  | cons term rest ih =>
    obtain ⟨first, others⟩ := List.forall_mem_cons.1 each
    obtain ⟨id, builder₁, inserted, one⟩ := first builder
    obtain ⟨ids, builder₂, insertedRest, more⟩ := ih builder₁ others
    exact ⟨id :: ids, builder₂, insertAll_cons_eq_ok_iff.2 ⟨id, builder₁, ids, inserted,
      insertedRest, rfl⟩, one.cons more⟩

/-- **A proper term that is not too deep can be laid out in any builder.** -/
theorem insert_inserted {term : Term} (proper : term.Proper) (small : term.depth ≤ maxDepth)
    (builder : Builder) :
    ∃ id builder', insert term builder = .ok id builder' ∧
      Inserted builder builder' [term] [id] := by
  induction proper generalizing builder with
  | @node term fits _ ih =>
    obtain ⟨ids, builder₁, insertedAll, operands⟩ := insertAll_inserted builder
      fun operand member => ih operand member (Nat.le_trans (Term.depth_operand_le member) small)
    have count : ids.length = term.operands.length :=
      operands.free.length_eq.trans (List.length_map _)
    have grew : Grown.node term.kind (term.operands.map Term.grown) = .ok term.grown :=
      (Grown.node_eq_ok_iff_grown (Term.term?_operands fits)).2 ⟨rfl, small⟩
    have added := node_eq_ok_iff.2
      ⟨count ▸ fits, operands.nodup, _, _, operands.free, grew, rfl, rfl⟩
    refine ⟨_, _, ?_, operands.node fits added⟩
    rw [insert_eq]
    exact run_bind_eq_ok_iff.2 ⟨ids, builder₁, insertedAll, added⟩

end Builder

/-- **A proper term that is not too deep can be finished, and its nodes show it.** -/
theorem Expression.exists_ofTerm {term : Term} (proper : term.Proper)
    (small : term.depth ≤ maxDepth) :
    ∃ expression, Expression.ofTerm term = .ok expression ∧
      expression.term = term ∧ Shows expression.nodes expression.root term := by
  obtain ⟨root, builder, inserted, laid⟩ := Builder.insert_inserted proper small Builder.empty
  obtain ⟨node, found, detached, same⟩ := (List.forall₂_cons.1 laid.free).1
  have only : builder.OnlyRoot root := by
    refine ⟨⟨node, found, detached⟩, fun id other foundOther different => ?_⟩
    exact laid.attached id other (Nat.zero_le _) foundOther (by simpa using different)
  obtain ⟨expression, built⟩ := Builder.exists_build_iff.2 only
  obtain ⟨_, sameNodes, sameRoot⟩ := Builder.build_eq_ok_iff.1 built
  have forest := (laid.reachable ⟨[], rfl⟩).forest
  have atRoot : builder.termAt root = some term :=
    Option.map_eq_some_iff.2 ⟨node, found, congrArg Grown.term same⟩
  refine ⟨expression, ?_, ?_, ?_⟩
  · exact Expression.ofTerm_eq_ok_iff.2 ⟨root, builder, inserted, built⟩
  · exact Option.some.inj ((Builder.termAt_root built).symm.trans atRoot)
  · rw [sameNodes, sameRoot]
    exact forest.shows atRoot

end Sift
