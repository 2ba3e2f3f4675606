import Mathlib.Data.List.Nodup
import Mathlib.Data.List.Perm.Subperm
import Mathlib.Data.List.ProdSigma
import Sift.Expression.Dump
import Sift.Proofs.Expression.Insertion
import Sift.Proofs.Failure

/-!
# A dump is written by recursion

A finished expression is dumped with a stack of nodes to enter and to leave.  What such a stack
still has to do is the list of the visits it will make: to leave a node is one visit, and to enter
it is a visit, then those of its children from left to right, and then the visit that leaves it
(`visitsFrom`).  Each turn of the loop makes the first visit that is pending and leaves a stack for
which the others are (`Builder.Forest.pending_enter`).  So the loop comes to an end, and it writes
the tags of all pending visits (`Builder.Forest.writes_pending`).

What is written for the root is the dump of its term by recursion, since the nodes of a forest show
their terms.  Each node is entered once and left once: there is one way from the root to each node
(`Builder.Forest.nodup_visitsFrom`), and two visits for each node are exactly as many steps as the
dump is given.
-/

set_option autoImplicit false

namespace Sift

/-! ## The recursive dump -/

namespace Term

theorem dumpAll_eq_join (terms : List Term) : dumpAll terms = String.join (terms.map dump) := by
  induction terms with
  | nil => rw [dumpAll, List.map_nil, String.join_nil]
  | cons term rest ih => rw [dumpAll, ih, List.map_cons, String.join_cons]

/-- **The dump of a term encloses those of its operands, in order, in the tags of its kind.** -/
theorem dump_eq (term : Term) :
    term.dump = openingTag term.kind.name ++ String.join (term.operands.map dump) ++
      closingTag term.kind.name := by
  cases term with
  | property name => simp [dump, kind, operands, NodeKind.name]
  | literal content => simp [dump, dump.enclosed, kind, operands]
  | inList value items => simp [dump, dump.enclosed, kind, operands, dumpAll_eq_join]
  | any arguments => simp [dump, dump.enclosed, kind, operands, dumpAll_eq_join]
  | _ => simp [dump, dump.enclosed, kind, operands, String.append_assoc]

end Term

/-! ## Visits -/

/-- The visits to a node and to all below it, each with whether the node is left or entered. -/
def visitsFrom (nodes : Array Node) (id : Nat) : List (Nat × Bool) :=
  match nodes[id]? with
  | none => []
  | some node =>
    (id, false) :: (node.children.flatMap fun child =>
      if child < id then visitsFrom nodes child else []) ++ [(id, true)]
termination_by id

/-- The visits that a stack of nodes, to be left or to be entered, has yet to make. -/
def pending (nodes : Array Node) (stack : List (Nat × Bool)) : List (Nat × Bool) :=
  stack.flatMap fun (id, leaving) => if leaving then [(id, true)] else visitsFrom nodes id

/-- The tag that is written on a visit. -/
def tagOf (nodes : Array Node) : Nat × Bool → String
  | (id, leaving) =>
    match nodes[id]? with
    | none => ""
    | some node => if leaving then closingTag node.kind.name else openingTag node.kind.name

/-- The tags that are written on visits. -/
def tagsOf (nodes : Array Node) (visits : List (Nat × Bool)) : String :=
  String.join (visits.map (tagOf nodes))

/-- The nodes of a builder or of an expression, each at its number. -/
abbrev Nodes := Array Node

/-- Work through a stack of nodes for as long as it takes.  There is no result if a node is looked
for that is not there, or if the work never ends. -/
def Nodes.writeFrom (nodes : Nodes) (stack : List (Nat × Bool)) (written : String) :
    Option String :=
  match stack with
  | [] => some written
  | (id, leaving) :: stack =>
    match nodes[id]? with
    | none => none
    | some node =>
      if leaving then nodes |>.writeFrom stack (written ++ closingTag node.kind.name)
      else
        nodes |>.writeFrom (node.children.map (·, false) ++ (id, true) :: stack)
          (written ++ openingTag node.kind.name)
partial_fixpoint

/-- The stack after a visit to a node. -/
def stackAfter (node : Node) : Nat × Bool → List (Nat × Bool) → List (Nat × Bool)
  | (_, true), stack => stack
  | (id, false), stack => node.children.map (·, false) ++ (id, true) :: stack

theorem writeFrom_cons {nodes : Array Node} {visit : Nat × Bool} {node : Node}
    (found : nodes[visit.1]? = some node) (stack : List (Nat × Bool)) (written : String) :
    Nodes.writeFrom nodes (visit :: stack) written =
      Nodes.writeFrom nodes (stackAfter node visit stack) (written ++ tagOf nodes visit) := by
  obtain ⟨id, leaving⟩ := visit
  have found : nodes[id]? = some node := found
  rw [Nodes.writeFrom]
  cases leaving <;> simp [found, tagOf, stackAfter]

theorem dumpFrom_cons {nodes : Array Node} {visit : Nat × Bool} {node : Node}
    (found : nodes[visit.1]? = some node) (stack : List (Nat × Bool)) (written : String)
    (steps : Nat) :
    Expression.dumpFrom nodes (steps + 1) (visit :: stack) written =
      Expression.dumpFrom nodes steps (stackAfter node visit stack)
        (written ++ tagOf nodes visit) := by
  obtain ⟨id, leaving⟩ := visit
  have found : nodes[id]? = some node := found
  rw [Expression.dumpFrom]
  cases leaving <;> simp [found, tagOf, stackAfter]

theorem tagsOf_cons (nodes : Array Node) (visit : Nat × Bool) (visits : List (Nat × Bool)) :
    tagsOf nodes (visit :: visits) = tagOf nodes visit ++ tagsOf nodes visits := by
  rw [tagsOf, List.map_cons, String.join_cons, tagsOf]

theorem tagsOf_append (nodes : Array Node) (visits later : List (Nat × Bool)) :
    tagsOf nodes (visits ++ later) = tagsOf nodes visits ++ tagsOf nodes later := by
  rw [tagsOf, List.map_append, String.join_append, tagsOf, tagsOf]

namespace Builder.Forest

variable {builder : Builder} (forest : builder.Forest)
include forest

theorem visitsFrom_eq {id : Nat} {node : Node} (found : builder.nodes[id]? = some node) :
    visitsFrom builder.nodes id =
      (id, false) :: node.children.flatMap (visitsFrom builder.nodes) ++ [(id, true)] := by
  rw [visitsFrom, found]
  refine congrArg (fun visits => (id, false) :: visits ++ [(id, true)]) ?_
  refine List.flatMap_congr fun child member => ?_
  rw [if_pos (forest.child_lt found member)]

/-! ## The loop -/

/-- **A turn of the loop makes the first visit that is pending.** -/
theorem pending_cons {visit : Nat × Bool} {node : Node}
    (found : builder.nodes[visit.1]? = some node) (stack : List (Nat × Bool)) :
    pending builder.nodes (visit :: stack) =
      visit :: pending builder.nodes (stackAfter node visit stack) := by
  obtain ⟨id, leaving⟩ := visit
  cases leaving with
  | true => rfl
  | false => simp [pending, stackAfter, forest.visitsFrom_eq found, List.flatMap_map]

/-- The nodes on the stack stay such that are there. -/
theorem lt_of_mem_stackAfter {visit : Nat × Bool} {node : Node}
    (found : builder.nodes[visit.1]? = some node) {stack : List (Nat × Bool)}
    (known : ∀ entry ∈ stack, entry.1 < builder.nodes.size) :
    ∀ entry ∈ stackAfter node visit stack, entry.1 < builder.nodes.size := by
  obtain ⟨id, leaving⟩ := visit
  have inside : id < builder.nodes.size := (Array.getElem?_eq_some_iff.1 found).1
  cases leaving with
  | true => exact known
  | false =>
    refine List.forall_mem_append.2 ⟨?_, List.forall_mem_cons.2 ⟨inside, known⟩⟩
    refine List.forall_mem_map.2 fun child member => ?_
    exact Nat.lt_trans (forest.child_lt found member) inside

/-- **The loop writes the tags of the visits that are pending.**  It comes to an end, and as many
steps as there are visits are enough. -/
theorem writes_pending {stack : List (Nat × Bool)}
    (known : ∀ entry ∈ stack, entry.1 < builder.nodes.size) (written : String) :
    Nodes.writeFrom builder.nodes stack written =
        some (written ++ tagsOf builder.nodes (pending builder.nodes stack)) ∧
      ∀ steps, (pending builder.nodes stack).length ≤ steps →
        Expression.dumpFrom builder.nodes steps stack written =
          written ++ tagsOf builder.nodes (pending builder.nodes stack) := by
  -- every turn makes one of the visits, so the induction is on those that are left
  induction left : pending builder.nodes stack generalizing stack written with
  | nil =>
    cases stack with
    | nil =>
      rw [Nodes.writeFrom]
      simp [Expression.dumpFrom, tagsOf]
    | cons visit stack =>
      have found := Array.getElem?_eq_getElem (List.forall_mem_cons.1 known).1
      cases (forest.pending_cons found stack).symm.trans left
  | cons first visits ih =>
    cases stack with
    | nil => cases left
    | cons visit stack =>
      obtain ⟨inside, others⟩ := List.forall_mem_cons.1 known
      have found := Array.getElem?_eq_getElem inside
      obtain ⟨rfl, rest⟩ := List.cons.inj ((forest.pending_cons found stack).symm.trans left)
      obtain ⟨ends, suffices'⟩ := ih (forest.lt_of_mem_stackAfter found others)
        (written ++ tagOf builder.nodes visit) rest
      rw [tagsOf_cons, ← String.append_assoc]
      refine ⟨(writeFrom_cons found stack written).trans ends, fun steps enough => ?_⟩
      obtain ⟨steps, rfl⟩ := Nat.exists_eq_add_of_le' (Nat.le_trans (Nat.succ_pos _) enough)
      rw [dumpFrom_cons found]
      exact suffices' steps (Nat.le_of_succ_le_succ enough)

end Builder.Forest

/-! ## What is written -/

theorem tagsOf_flatMap (nodes : Array Node) (visits : Nat → List (Nat × Bool)) (ids : List Nat) :
    tagsOf nodes (ids.flatMap visits) =
      String.join (ids.map fun id => tagsOf nodes (visits id)) := by
  induction ids with
  | nil => rfl
  | cons id rest ih =>
    rw [List.flatMap_cons, tagsOf_append, ih, List.map_cons, String.join_cons]

namespace Builder.Forest

variable {builder : Builder} (forest : builder.Forest)
include forest

/-- **The tags below a node are the dump of its term.** -/
theorem tagsOf_visitsFrom {term : Term} {id : Nat} (carries : builder.Carries id term) :
    tagsOf builder.nodes (visitsFrom builder.nodes id) = term.dump := by
  induction term using Term.operandInduction generalizing id with
  | step term ih =>
    obtain ⟨node, found, sameKind, children⟩ := forest.node_of_carries carries
    have inner : node.children.map (fun child =>
        tagsOf builder.nodes (visitsFrom builder.nodes child)) = term.operands.map Term.dump := by
      refine List.ext_getElem (by simpa using children.length_eq) fun position inside inside' => ?_
      rw [List.length_map] at inside inside'
      rw [List.getElem_map, List.getElem_map]
      exact ih _ (List.getElem_mem inside') (children.get inside inside')
    have opening : tagOf builder.nodes (id, false) = openingTag term.kind.name := by
      simp [tagOf, found, sameKind]
    have closing : tagsOf builder.nodes [(id, true)] = closingTag term.kind.name := by
      simp [tagsOf, tagOf, found, sameKind]
    rw [forest.visitsFrom_eq found, List.cons_append, tagsOf_cons, tagsOf_append, tagsOf_flatMap,
      inner, opening, closing, ← String.append_assoc, term.dump_eq]

/-! ## Each node once -/

/-- The nodes that are visited are those to which a path leads. -/
theorem mem_visitsFrom {id last : Nat} {leaving : Bool} (inside : id < builder.nodes.size) :
    (last, leaving) ∈ visitsFrom builder.nodes id ↔
      ∃ path, follow builder.nodes id path = some last := by
  induction id using Nat.strong_induction_on with
  | h id ih =>
    have found := Array.getElem?_eq_getElem inside
    have below (child : Nat) (member : child ∈ builder.nodes[id].children) :=
      ih child (forest.child_lt found member) (Nat.lt_trans (forest.child_lt found member) inside)
    rw [forest.visitsFrom_eq found, List.cons_append, List.mem_cons, List.mem_append,
      List.mem_flatMap, List.mem_singleton]
    constructor
    · rintro (here | ⟨child, member, visited⟩ | here)
      · exact ⟨[], congrArg some (congrArg Prod.fst here).symm⟩
      · obtain ⟨path, leads⟩ := (below child member).1 visited
        obtain ⟨position, at'⟩ := List.getElem?_of_mem member
        have step := childAt_eq_some_iff.2 ⟨_, found, at'⟩
        exact ⟨position :: path, Option.bind_eq_some_iff.2 ⟨child, step, leads⟩⟩
      · exact ⟨[], congrArg some (congrArg Prod.fst here).symm⟩
    · rintro ⟨path, leads⟩
      cases path with
      | nil =>
        obtain rfl := Option.some.inj leads
        cases leaving <;> simp
      | cons position path =>
        obtain ⟨child, step, leads⟩ := Option.bind_eq_some_iff.1 leads
        obtain ⟨node, found', at'⟩ := childAt_eq_some_iff.1 step
        cases found.symm.trans found'
        have member := List.mem_of_getElem? at'
        exact Or.inr (Or.inl ⟨child, member, (below child member).2 ⟨path, leads⟩⟩)

/-- **No visit is made twice.** -/
theorem nodup_visitsFrom {id : Nat} (inside : id < builder.nodes.size) :
    (visitsFrom builder.nodes id).Nodup := by
  induction id using Nat.strong_induction_on with
  | h id ih =>
    have found := Array.getElem?_eq_getElem inside
    have before (child : Nat) (member : child ∈ builder.nodes[id].children) : child < id :=
      forest.child_lt found member
    have insideToo (child : Nat) (member : child ∈ builder.nodes[id].children) :=
      Nat.lt_trans (before child member) inside
    -- no visit below the node is one to the node itself
    have other (leaving : Bool) :
        (id, leaving) ∉ builder.nodes[id].children.flatMap (visitsFrom builder.nodes) := by
      rw [List.mem_flatMap]
      rintro ⟨child, member, visited⟩
      obtain ⟨path, leads⟩ := (forest.mem_visitsFrom (insideToo child member)).1 visited
      exact absurd (forest.follow_le leads) (Nat.not_le.2 (before child member))
    -- a visit below two children would end two paths
    have apart : ∀ child ∈ builder.nodes[id].children, ∀ child' ∈ builder.nodes[id].children,
        child ≠ child' →
          List.Disjoint (visitsFrom builder.nodes child) (visitsFrom builder.nodes child') := by
      rintro child member child' member' different ⟨last, leaving⟩ visited visited'
      obtain ⟨path, leads⟩ := (forest.mem_visitsFrom (insideToo child member)).1 visited
      obtain ⟨path', leads'⟩ := (forest.mem_visitsFrom (insideToo child' member')).1 visited'
      obtain ⟨position, at'⟩ := List.getElem?_of_mem member
      obtain ⟨position', at''⟩ := List.getElem?_of_mem member'
      have same : position :: path = position' :: path' := forest.follow_inj
        (Option.bind_eq_some_iff.2 ⟨child, childAt_eq_some_iff.2 ⟨_, found, at'⟩, leads⟩)
        (Option.bind_eq_some_iff.2 ⟨child', childAt_eq_some_iff.2 ⟨_, found, at''⟩, leads'⟩)
      obtain ⟨rfl, _⟩ := List.cons.inj same
      exact different (Option.some.inj (at'.symm.trans at''))
    rw [forest.visitsFrom_eq found, List.cons_append, List.nodup_cons, List.nodup_append]
    refine ⟨?_, ?_, List.nodup_singleton _, ?_⟩
    · simpa using other false
    · exact List.nodup_flatMap.2 ⟨fun child member => ih child (before child member)
        (insideToo child member), (forest.nodup found).pairwise_of_forall_ne apart⟩
    · rintro visit visited _ last rfl
      rw [List.mem_singleton.1 last] at visited
      exact other true visited

/-- The visits from a node take no more steps than there are nodes to enter and to leave. -/
theorem length_visitsFrom_le {id : Nat} (inside : id < builder.nodes.size) :
    (visitsFrom builder.nodes id).length ≤ 2 * builder.nodes.size := by
  have known : visitsFrom builder.nodes id ⊆
      List.range builder.nodes.size ×ˢ [false, true] := by
    rintro ⟨last, leaving⟩ visited
    obtain ⟨path, leads⟩ := (forest.mem_visitsFrom inside).1 visited
    refine List.mem_product.2 ⟨List.mem_range.2 ?_, by cases leaving <;> simp⟩
    exact Nat.lt_of_le_of_lt (forest.follow_le leads) inside
  have bounded := (List.subperm_of_subset (forest.nodup_visitsFrom inside) known).length_le
  rwa [List.length_product, List.length_range, Nat.mul_comm] at bounded

/-! ## One inside the other -/

omit forest in
theorem infix_flatMap {α β : Type} {member : α} {members : List α} (isMember : member ∈ members)
    (f : α → List β) : f member <:+: members.flatMap f := by
  obtain ⟨before, after, rfl⟩ := List.append_of_mem isMember
  exact ⟨before.flatMap f, after.flatMap f, by simp⟩

/-- What is visited below a node is visited in one go. -/
theorem visitsFrom_infix {id last : Nat} {path : List Nat}
    (leads : follow builder.nodes id path = some last) :
    visitsFrom builder.nodes last <:+: visitsFrom builder.nodes id := by
  induction path generalizing id with
  | nil =>
    obtain rfl := Option.some.inj leads
    exact List.infix_rfl
  | cons position path ih =>
    obtain ⟨child, step, leads⟩ := Option.bind_eq_some_iff.1 leads
    obtain ⟨node, found, at'⟩ := childAt_eq_some_iff.1 step
    rw [forest.visitsFrom_eq found]
    refine (ih leads).trans ?_
    refine (infix_flatMap (List.mem_of_getElem? at') _).trans ?_
    exact ⟨[(id, false)], [(id, true)], by simp⟩

/-- **A child is entered after its parent and left before it.** -/
theorem nested_visitsFrom {id position child : Nat}
    (step : childAt builder.nodes id position = some child) :
    [(id, false), (child, false), (child, true), (id, true)].Sublist
      (visitsFrom builder.nodes id) := by
  obtain ⟨node, found, at'⟩ := childAt_eq_some_iff.1 step
  have foundChild := Array.getElem?_eq_getElem (forest.childAt_lt step).2
  have inner : [(child, false), (child, true)].Sublist (visitsFrom builder.nodes child) := by
    rw [forest.visitsFrom_eq foundChild]
    simp
  have below := (infix_flatMap (List.mem_of_getElem? at') (visitsFrom builder.nodes)).sublist
  rw [forest.visitsFrom_eq found]
  exact ((inner.trans below).append (List.Sublist.refl [(id, true)])).cons_cons (id, false)

end Builder.Forest

/-! ## Finished expressions -/

namespace Expression

/-- The visits to the nodes of a finished expression. -/
def visits (expression : Expression) : List (Nat × Bool) :=
  visitsFrom expression.nodes expression.root

section Finished

variable {requests : List Builder.Request} {root : Nat} {expression : Expression}
  (built : (Builder.after requests).build root = .ok expression)
include built

/-- The visits are made by the loop, and the steps that the dump is given are enough for them. -/
theorem writes_visits :
    Nodes.writeFrom expression.nodes [(expression.root, false)] "" =
        some (tagsOf expression.nodes expression.visits) ∧
      expression.dump = tagsOf expression.nodes expression.visits := by
  have forest := Builder.forest_after requests
  obtain ⟨_, sameNodes, _⟩ := Builder.build_eq_ok_iff.1 built
  have inside : expression.root < (Builder.after requests).nodes.size :=
    sameNodes ▸ expression.root_lt
  have known : ∀ entry ∈ [(expression.root, false)],
      entry.1 < (Builder.after requests).nodes.size := List.forall_mem_singleton.2 inside
  have alone : pending (Builder.after requests).nodes [(expression.root, false)] =
      visitsFrom (Builder.after requests).nodes expression.root := by
    simp [pending]
  obtain ⟨ends, suffice⟩ := forest.writes_pending known ""
  rw [alone, String.empty_append] at ends suffice
  rw [dump, size, visits, sameNodes]
  exact ⟨ends, suffice _ (forest.length_visitsFrom_le inside)⟩

/-- The loop comes to an end, and so it writes the dump. -/
theorem writeFrom_root :
    Nodes.writeFrom expression.nodes [(expression.root, false)] "" = some expression.dump := by
  obtain ⟨ends, dumped⟩ := writes_visits built
  rw [ends, dumped]

/-- Each node is visited once on the way down and once on the way up. -/
theorem count_visits {id : Nat} (known : id < expression.nodes.size) (leaving : Bool) :
    expression.visits.count (id, leaving) = 1 := by
  have forest := Builder.forest_after requests
  obtain ⟨only, sameNodes, rfl⟩ := Builder.build_eq_ok_iff.1 built
  rw [sameNodes] at known
  have inside : expression.root < (Builder.after requests).nodes.size :=
    sameNodes ▸ expression.root_lt
  rw [visits, sameNodes]
  refine List.count_eq_one_of_mem (forest.nodup_visitsFrom inside) ?_
  exact (forest.mem_visitsFrom inside).2 (forest.existsUnique_follow only known).exists

/-- The visits to a child lie between those to its parent. -/
theorem nested_visits {id position child : Nat}
    (step : childAt expression.nodes id position = some child) :
    [(id, false), (child, false), (child, true), (id, true)].Sublist expression.visits := by
  have forest := Builder.forest_after requests
  obtain ⟨only, sameNodes, rfl⟩ := Builder.build_eq_ok_iff.1 built
  obtain ⟨node, found, _⟩ := childAt_eq_some_iff.1 step
  rw [sameNodes] at step found
  obtain ⟨path, leads⟩ :=
    (forest.existsUnique_follow only (Array.getElem?_eq_some_iff.1 found).1).exists
  rw [visits, sameNodes]
  exact (forest.nested_visitsFrom step).trans (forest.visitsFrom_infix leads).sublist

/-- **The dump of a finished expression is the recursive one.**  The loop comes to an end and writes
the dump of the term that the nodes show from the root, and this encloses the dumps of the operands,
in order, in the tags of the node.  The tags are those of the visits to the nodes.  Each node is
entered once and left once, and a child is entered after its parent and left before it. -/
theorem dump_eq_recursion :
    Nodes.writeFrom expression.nodes [(expression.root, false)] "" = some expression.dump ∧
    expression.dump = expression.term.dump ∧
    Shows expression.nodes expression.root expression.term ∧
    (∀ term : Term, term.dump = openingTag term.kind.name ++
      String.join (term.operands.map Term.dump) ++ closingTag term.kind.name) ∧
    expression.dump = tagsOf expression.nodes expression.visits ∧
    (∀ id < expression.nodes.size,
      expression.visits.count (id, false) = 1 ∧ expression.visits.count (id, true) = 1) ∧
    ∀ id position child, childAt expression.nodes id position = some child →
      [(id, false), (child, false), (child, true), (id, true)].Sublist expression.visits := by
  have forest := Builder.forest_after requests
  have dumped := (writes_visits built).2
  have carries := Builder.termAt_root built
  obtain ⟨_, sameNodes, sameRoot⟩ := Builder.build_eq_ok_iff.1 built
  rw [← sameRoot] at carries
  refine ⟨writeFrom_root built, ?_, ?_, Term.dump_eq, dumped,
    fun id known => ⟨count_visits built known false, count_visits built known true⟩,
    fun _ _ _ step => nested_visits built step⟩
  · rw [dumped, visits, sameNodes]
    exact forest.tagsOf_visitsFrom carries
  · rw [sameNodes]
    exact forest.shows carries

end Finished

/-- The dump of a property that is not among an item and another property. -/
theorem dump_eq_recursion_membership :
    ∃ expression,
      (Builder.after [(.property "a", []), (.literal (.string "c"), []), (.property "b", []),
        (.inList, [0, 1, 2]), (.not, [3])]).build 4 = .ok expression ∧
      Nodes.writeFrom expression.nodes [(4, false)] "" =
        some ("<NOT><IN><a></a><StringLiteral></StringLiteral><b></b></IN></NOT>") ∧
      expression.visits.count (3, true) = 1 := by
  have dumped : ((Builder.after [(.property "a", []), (.literal (.string "c"), []),
      (.property "b", []), (.inList, [0, 1, 2]), (.not, [3])]).build 4).map dump =
        .ok "<NOT><IN><a></a><StringLiteral></StringLiteral><b></b></IN></NOT>" := by decide +kernel
  obtain ⟨expression, built, written⟩ := map_eq_ok_iff.1 dumped
  obtain ⟨ends, _, _, _, _, once, _⟩ := dump_eq_recursion built
  obtain ⟨_, _, root⟩ := Builder.build_eq_ok_iff.1 built
  have inside : 3 < expression.nodes.size := by
    have := expression.root_lt
    omega
  rw [root, written] at ends
  exact ⟨expression, built, ends, (once 3 inside).2⟩

end Expression

end Sift
