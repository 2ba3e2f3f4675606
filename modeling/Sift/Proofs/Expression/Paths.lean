import Mathlib.Data.String.Basic
import Sift.Proofs.Expression.Arena

/-!
# Paths in a finished tree

A builder can be finished below a root exactly if the root is its only node without a parent.  The
forest is then one tree.  Parents stand after their children, so going up from any node ends at the
last one, which must be the root; and since a node is a child only once, there is only one way up.
Read downwards, this is a unique path of child positions from the root to each node
(`Builder.Forest.existsUnique_follow`).  So no node of a finished expression is out of reach, and
its identifiers are those that a walk from the root would collect.
-/

set_option autoImplicit false

namespace Sift

/-! ## Children by position -/

/-- The child of a node at a position. -/
def childAt (nodes : Array Node) (id position : Nat) : Option Nat :=
  nodes[id]?.bind fun node => node.children[position]?

/-- The node that a path of child positions leads to. -/
def follow (nodes : Array Node) : Nat → List Nat → Option Nat
  | id, [] => some id
  | id, position :: rest => (childAt nodes id position).bind fun child => follow nodes child rest

theorem childAt_eq_some_iff {nodes : Array Node} {id position child : Nat} :
    childAt nodes id position = some child ↔
      ∃ node, nodes[id]? = some node ∧ node.children[position]? = some child :=
  Option.bind_eq_some_iff

theorem follow_concat (nodes : Array Node) (id : Nat) (path : List Nat) (position : Nat) :
    follow nodes id (path ++ [position]) =
      (follow nodes id path).bind fun last => childAt nodes last position := by
  induction path generalizing id with
  | nil =>
    simp only [List.nil_append, follow, Option.bind_some]
    exact Option.bind_fun_some _
  | cons first rest ih =>
    rw [List.cons_append, follow, follow, Option.bind_assoc]
    exact congrArg (Option.bind _) (funext fun child => ih child)

namespace Builder.Forest

variable {builder : Builder} (forest : builder.Forest)
include forest

/-- A child is a node that was there before its parent. -/
theorem childAt_lt {id position child : Nat}
    (found : childAt builder.nodes id position = some child) :
    child < id ∧ child < builder.nodes.size := by
  obtain ⟨node, foundNode, at'⟩ := childAt_eq_some_iff.1 found
  obtain ⟨inside, _⟩ := Array.getElem?_eq_some_iff.1 foundNode
  have before := forest.child_lt foundNode (List.mem_of_getElem? at')
  exact ⟨before, Nat.lt_trans before inside⟩

/-- **A node is a child at one place only.** -/
theorem childAt_inj {above above' position position' child : Nat}
    (first : childAt builder.nodes above position = some child)
    (second : childAt builder.nodes above' position' = some child) :
    above = above' ∧ position = position' := by
  obtain ⟨_, inside⟩ := forest.childAt_lt first
  obtain ⟨parent, found, at'⟩ := childAt_eq_some_iff.1 first
  obtain ⟨parent', found', at''⟩ := childAt_eq_some_iff.1 second
  have known := Array.getElem?_eq_getElem inside
  have up := (forest.parent_iff known).2 ⟨parent, found, List.mem_of_getElem? at'⟩
  have up' := (forest.parent_iff known).2 ⟨parent', found', List.mem_of_getElem? at''⟩
  obtain rfl := Option.some.inj (up.symm.trans up')
  cases found.symm.trans found'
  obtain ⟨bound, _⟩ := List.getElem?_eq_some_iff.1 at'
  exact ⟨rfl, (List.getElem?_inj bound (forest.nodup found)).1 (at'.trans at''.symm)⟩

/-- Every node with a parent is a child somewhere, of a later node. -/
theorem exists_childAt {id above : Nat} {node : Node} (found : builder.nodes[id]? = some node)
    (attached : node.parent = some above) :
    above < builder.nodes.size ∧ ∃ position, childAt builder.nodes above position = some id := by
  obtain ⟨parent, foundParent, member⟩ := (forest.parent_iff found).1 attached
  obtain ⟨inside, _⟩ := Array.getElem?_eq_some_iff.1 foundParent
  obtain ⟨position, at'⟩ := List.getElem?_of_mem member
  exact ⟨inside, position, childAt_eq_some_iff.2 ⟨parent, foundParent, at'⟩⟩

/-! ## Paths -/

theorem follow_le {id last : Nat} {path : List Nat}
    (leads : follow builder.nodes id path = some last) : last ≤ id := by
  induction path generalizing id with
  | nil => exact Nat.le_of_eq (Option.some.inj leads).symm
  | cons position rest ih =>
    obtain ⟨child, found, later⟩ := Option.bind_eq_some_iff.1 leads
    exact Nat.le_trans (ih later) (Nat.le_of_lt (forest.childAt_lt found).1)

/-- No path leads back to where it starts. -/
theorem follow_self {id : Nat} {path : List Nat}
    (leads : follow builder.nodes id path = some id) : path = [] := by
  cases path with
  | nil => rfl
  | cons position rest =>
    obtain ⟨child, found, later⟩ := Option.bind_eq_some_iff.1 leads
    exact absurd (forest.follow_le later) (Nat.not_le.2 (forest.childAt_lt found).1)

/-- **At most one path leads from a node to another.** -/
theorem follow_inj {root id : Nat} {path path' : List Nat}
    (leads : follow builder.nodes root path = some id)
    (leads' : follow builder.nodes root path' = some id) : path = path' := by
  -- both paths end with the same step, since the node is a child at one place only
  induction path using List.reverseRecOn generalizing id path' with
  | nil =>
    obtain rfl := Option.some.inj leads
    exact (forest.follow_self leads').symm
  | append_singleton path position ih =>
    cases path' using List.reverseRecOn with
    | nil =>
      obtain rfl := Option.some.inj leads'
      exact forest.follow_self leads
    | append_singleton path' position' =>
      rw [follow_concat] at leads leads'
      obtain ⟨above, up, step⟩ := Option.bind_eq_some_iff.1 leads
      obtain ⟨above', up', step'⟩ := Option.bind_eq_some_iff.1 leads'
      obtain ⟨rfl, rfl⟩ := forest.childAt_inj step step'
      rw [ih up up']

end Builder.Forest

/-! ## Finishing -/

theorem firstDetached?_eq_none_iff {nodes : Array Node} {root : Nat} :
    firstDetached? nodes root = none ↔
      ∀ id node, nodes[id]? = some node → id ≠ root → node.parent ≠ none := by
  simp [firstDetached?, List.mk_mem_zipIdx_iff_getElem?, forall_comm (α := Node)]

/-- The root is the only node without a parent. -/
def Builder.OnlyRoot (builder : Builder) (root : Nat) : Prop :=
  (∃ node, builder.nodes[root]? = some node ∧ node.parent = none) ∧
    ∀ id node, builder.nodes[id]? = some node → id ≠ root → node.parent ≠ none

/-- **A builder can be finished below a root exactly if no other node lacks a parent.** -/
theorem Builder.build_eq_ok_iff {builder : Builder} {root : Nat} {expression : Expression} :
    builder.build root = .ok expression ↔
      builder.OnlyRoot root ∧ expression.nodes = builder.nodes ∧ expression.root = root := by
  unfold Builder.build
  by_cases known : root < builder.nodes.size
  · have found := Array.getElem?_eq_getElem known
    rw [dif_pos known]
    by_cases attached : builder.nodes[root].parent.isSome = true
    · rw [if_pos attached]
      constructor
      · exact nofun
      · rintro ⟨⟨⟨node, found', detached⟩, _⟩, _⟩
        cases found.symm.trans found'
        rw [detached] at attached
        cases attached
    · rw [if_neg attached]
      cases first : firstDetached? builder.nodes root with
      | some node =>
        constructor
        · exact nofun
        · rintro ⟨⟨_, others⟩, _⟩
          cases first.symm.trans (firstDetached?_eq_none_iff.2 others)
      | none =>
        have only : builder.OnlyRoot root :=
          ⟨⟨_, found, Option.not_isSome_iff_eq_none.1 attached⟩,
            firstDetached?_eq_none_iff.1 first⟩
        constructor
        · intro built
          obtain rfl := Except.ok.inj built
          exact ⟨only, rfl, rfl⟩
        · rintro ⟨_, sameNodes, sameRoot⟩
          obtain ⟨nodes, root', inside⟩ := expression
          subst sameNodes sameRoot
          rfl
  · rw [dif_neg known]
    constructor
    · exact nofun
    · rintro ⟨⟨⟨node, found, _⟩, _⟩, _⟩
      exact absurd (Array.getElem?_eq_some_iff.1 found).1 known

/-- A builder can be finished exactly below the only node without a parent. -/
theorem Builder.exists_build_iff {builder : Builder} {root : Nat} :
    (∃ expression, builder.build root = .ok expression) ↔ builder.OnlyRoot root := by
  constructor
  · rintro ⟨expression, built⟩
    exact (build_eq_ok_iff.1 built).1
  · intro only
    obtain ⟨node, found, _⟩ := only.1
    obtain ⟨inside, _⟩ := Array.getElem?_eq_some_iff.1 found
    exact ⟨⟨builder.nodes, root, inside⟩, build_eq_ok_iff.2 ⟨only, rfl, rfl⟩⟩

/-- The term of a finished expression is that of its root. -/
theorem Builder.termAt_root {builder : Builder} {root : Nat} {expression : Expression}
    (built : builder.build root = .ok expression) :
    builder.termAt root = some expression.term := by
  obtain ⟨_, sameNodes, rfl⟩ := Builder.build_eq_ok_iff.1 built
  rw [Builder.termAt, ← sameNodes, Array.getElem?_eq_getElem expression.root_lt]
  rfl

namespace Builder.Forest

variable {builder : Builder} {root : Nat} (forest : builder.Forest) (only : builder.OnlyRoot root)
include forest only

/-- The root is the last node, since the parent of the last node would have to stand after it. -/
theorem root_last : root + 1 = builder.nodes.size := by
  obtain ⟨node, found, _⟩ := only.1
  obtain ⟨inside, _⟩ := Array.getElem?_eq_some_iff.1 found
  by_contra earlier
  have last : builder.nodes.size - 1 < builder.nodes.size := by omega
  have foundLast := Array.getElem?_eq_getElem last
  obtain ⟨above, attached⟩ := Option.ne_none_iff_exists'.1 (only.2 _ _ foundLast (by omega))
  obtain ⟨insideAbove, position, step⟩ := forest.exists_childAt foundLast attached
  have after := (forest.childAt_lt step).1
  omega

/-- A path leads from the root to every node. -/
theorem exists_follow {id : Nat} (inside : id < builder.nodes.size) :
    ∃ path, follow builder.nodes root path = some id := by
  by_cases isRoot : id = root
  · exact ⟨[], congrArg some isRoot.symm⟩
  · have found := Array.getElem?_eq_getElem inside
    obtain ⟨above, attached⟩ := Option.ne_none_iff_exists'.1 (only.2 _ _ found isRoot)
    obtain ⟨insideAbove, position, step⟩ := forest.exists_childAt found attached
    have up := (forest.childAt_lt step).1
    obtain ⟨path, leads⟩ := exists_follow insideAbove
    refine ⟨path ++ [position], ?_⟩
    rw [follow_concat, leads]
    exact step
termination_by builder.nodes.size - id

/-- **Exactly one path leads from the root to a node.** -/
theorem existsUnique_follow {id : Nat} (inside : id < builder.nodes.size) :
    ∃! path, follow builder.nodes root path = some id := by
  obtain ⟨path, leads⟩ := forest.exists_follow only inside
  exact ⟨path, leads, fun path' leads' => forest.follow_inj leads' leads⟩

end Builder.Forest

/-! ## Identifiers -/

namespace Expression

theorem mem_insertName {name other : String} {names : List String} :
    other ∈ insertName name names ↔ other = name ∨ other ∈ names := by
  induction names with
  | nil => simp [insertName]
  | cons first rest ih =>
    unfold insertName
    split_ifs with before same
    · exact List.mem_cons
    · subst same
      simp
    · simp only [List.mem_cons, ih]
      tauto

theorem pairwise_insertName {name : String} {names : List String}
    (ascending : names.Pairwise (· < ·)) : (insertName name names).Pairwise (· < ·) := by
  induction names with
  | nil => exact List.pairwise_singleton _ _
  | cons first rest ih =>
    obtain ⟨below, later⟩ := List.pairwise_cons.1 ascending
    unfold insertName
    split_ifs with before same
    · refine List.pairwise_cons.2
        ⟨List.forall_mem_cons.2 ⟨before, fun other member => ?_⟩, ascending⟩
      exact lt_trans before (below other member)
    · exact ascending
    · refine List.pairwise_cons.2 ⟨fun other member => ?_, ih later⟩
      rcases mem_insertName.1 member with rfl | inRest
      · exact lt_of_le_of_ne (not_lt.1 before) (Ne.symm same)
      · exact below other inRest

/-- The identifiers are ascending, so none occurs twice. -/
theorem pairwise_identifiers (expression : Expression) :
    expression.identifiers.Pairwise (· < ·) := by
  unfold identifiers
  induction expression.nodes.toList.filterMap Node.property? with
  | nil => exact List.Pairwise.nil
  | cons name names ih => exact pairwise_insertName ih

theorem Node.property?_eq_some {node : Node} {name : String} :
    Node.property? node = some name ↔ node.kind = .property name := by
  unfold Node.property?
  cases node.kind <;> simp

/-- The identifiers are the names of the property nodes. -/
theorem mem_identifiers {expression : Expression} {name : String} :
    name ∈ expression.identifiers ↔
      ∃ (id : Nat) (node : Node), expression.nodes[id]? = some node ∧
        node.kind = .property name := by
  have collected (names : List String) : name ∈ names.foldr insertName [] ↔ name ∈ names := by
    induction names with
    | nil => exact Iff.rfl
    | cons first rest ih => rw [List.foldr_cons, mem_insertName, ih, List.mem_cons]
  rw [identifiers, collected, List.mem_filterMap]
  simp only [Node.property?_eq_some, Array.mem_toList_iff, Array.mem_iff_getElem?]
  constructor
  · rintro ⟨node, ⟨id, found⟩, same⟩
    exact ⟨id, node, found, same⟩
  · rintro ⟨id, node, found, same⟩
    exact ⟨node, ⟨id, found⟩, same⟩

end Expression

/-! ## What requests can make -/

/-- **Whatever is requested, the nodes are a forest, and a finished expression is one tree.**  A
request that fails changes nothing.  Children stand before their parents and fit their number, a
node knows its parent, and no node is a child at two places.  So a builder can be finished exactly
below the only node without a parent; that is the last node, one path leads from it to each node,
and the identifiers are the names of the properties that it reaches. -/
theorem Builder.forest_of_requests (requests : List Request) :
    (∀ kind children error, ((after requests).step kind children).2 = .error error →
      ((after requests).step kind children).1 = after requests) ∧
    (∀ (id : Nat) (node : Node), (after requests).nodes[id]? = some node →
      (∀ child ∈ node.children, child < id) ∧
        node.kind.arity.accepts node.children.length = true) ∧
    (∀ (id above : Nat) (node : Node), (after requests).nodes[id]? = some node →
      (node.parent = some above ↔
        ∃ parent, (after requests).nodes[above]? = some parent ∧ id ∈ parent.children)) ∧
    (∀ above above' position position' child,
      childAt (after requests).nodes above position = some child →
      childAt (after requests).nodes above' position' = some child →
      above = above' ∧ position = position') ∧
    (∀ root, (∃ expression, (after requests).build root = .ok expression) ↔
      (∃ node, (after requests).nodes[root]? = some node ∧ node.parent = none) ∧
        ∀ id node, (after requests).nodes[id]? = some node → id ≠ root → node.parent ≠ none) ∧
    ∀ root expression, (after requests).build root = .ok expression →
      expression.nodes = (after requests).nodes ∧ expression.root = root ∧
        root + 1 = expression.nodes.size ∧
        (∀ id < expression.nodes.size, ∃! path, follow expression.nodes root path = some id) ∧
        expression.identifiers.Pairwise (· < ·) ∧
        ∀ name, name ∈ expression.identifiers ↔
          ∃ (path : List Nat) (id : Nat) (node : Node),
            follow expression.nodes root path = some id ∧
              expression.nodes[id]? = some node ∧ node.kind = .property name := by
  have forest := forest_after requests
  refine ⟨fun _ _ _ failed => step_of_error failed, fun id node found => ?_,
    fun _ _ _ found => forest.parent_iff found, fun _ _ _ _ _ => forest.childAt_inj,
    fun _ => exists_build_iff, fun root expression built => ?_⟩
  · exact ⟨fun _ member => forest.child_lt found member, forest.arity found⟩
  · obtain ⟨only, sameNodes, sameRoot⟩ := build_eq_ok_iff.1 built
    have unique : ∀ id < expression.nodes.size,
        ∃! path, follow expression.nodes root path = some id := by
      rw [sameNodes]
      exact fun id inside => forest.existsUnique_follow only inside
    refine ⟨sameNodes, sameRoot, sameNodes ▸ forest.root_last only, unique,
      expression.pairwise_identifiers, fun name => ?_⟩
    rw [Expression.mem_identifiers]
    constructor
    · rintro ⟨id, node, found, named⟩
      obtain ⟨path, leads, _⟩ := unique id (Array.getElem?_eq_some_iff.1 found).1
      exact ⟨path, id, node, leads, found, named⟩
    · rintro ⟨_, id, node, _, found, named⟩
      exact ⟨id, node, found, named⟩

end Sift
