import Sift.Expression.Error

/-!
# Building expressions

A builder collects nodes, children before parents.  A node is known by its position, so its
children always stand before it; it records who its parent is, and a node that has a parent cannot
be given another one.  Whatever is done with a builder goes on from one builder to another, also
where it fails; all that can go wrong with a new node is looked for before anything is changed.  A
finished expression is the collection together with its root, which must be the only node without a
parent.

Every node carries the term it is the root of, and its nesting depth.  The depth of a run counts
as one level however many operands it has, since a run is worked through as a flat list.  Both come
from the children alone (`Grown.node`), so a tree is refused for its depth wherever it is built.
-/

namespace Sift

/-! ## Growing terms -/

/-- A term and its nesting depth. -/
structure Grown where
  term : Term
  depth : Nat

/-- The nesting depth of a node over its operands. -/
def nestingDepth (kind : NodeKind) (operands : List Grown) : Nat :=
  match kind, operands with
  | .connect operator, [left, right] =>
    if left.term.continues operator then max left.depth (right.depth + 1)
    else 1 + max left.depth right.depth
  | _, operands => 1 + (operands.map Grown.depth).foldr max 0

/-- Grow a node over its operands, within the limit of depth. -/
def Grown.node (kind : NodeKind) (operands : List Grown) : Except BuildError Grown :=
  match kind.term? (operands.map Grown.term) with
  | none => .error (.arity kind.name kind.arity operands.length)
  | some term =>
    let depth := nestingDepth kind operands
    if maxDepth < depth then .error .tooDeep else .ok ⟨term, depth⟩

/-! ## Nodes -/

/-- A node of a tree under construction. -/
structure Node where
  kind : NodeKind
  children : List Nat
  parent : Option Nat
  grown : Grown

/-- The nodes built so far. -/
structure Builder where
  nodes : Array Node

namespace Builder

/-- Nothing is built yet. -/
def empty : Builder := ⟨#[]⟩

/-- The terms of the children of a new node, unless one of them is unknown or already has a
parent.  A child that occurs twice counts as having one at its second place. -/
def operands (builder : Builder) :
    (children : List Nat) → (earlier : List Nat) → Except BuildError (List Grown)
  | [], _ => .ok []
  | id :: rest, earlier =>
    match builder.nodes[id]? with
    | none => .error (.unknownNode id)
    | some node =>
      if node.parent.isSome || earlier.contains id then .error (.alreadyAttached node.kind.name)
      else (builder.operands rest (id :: earlier)).map (node.grown :: ·)

/-- Give nodes a parent. -/
def attach (nodes : Array Node) (children : List Nat) (parent : Nat) : Array Node :=
  children.foldl (fun nodes id => nodes.modify id fun node => { node with parent := some parent })
    nodes

/-- What is done with a builder.  It goes on from one builder to another, also if it fails. -/
abbrev Building := EStateM BuildError Builder

/-- Look for something that may be wrong with the nodes. -/
def look {α : Type} (find : Builder → Except BuildError α) : Building α := fun builder =>
  match find builder with
  | .ok found => .ok found builder
  | .error error => .error error builder

/-- Refuse children if their kind of node does not take so many. -/
def checkCount (kind : NodeKind) (children : List Nat) : Except BuildError Unit :=
  if kind.arity.accepts children.length then .ok ()
  else .error (.arity kind.name kind.arity children.length)

/-- Add a node over nodes that are there already.  The result is its position. -/
def node (kind : NodeKind) (children : List Nat) : Building Nat := do
  look fun _ => checkCount kind children
  let operands ← look fun builder => builder.operands children []
  let grown ← look fun _ => Grown.node kind operands
  let id ← look fun builder => .ok builder.nodes.size
  modify fun builder => ⟨attach builder.nodes children id⟩
  modify fun builder => ⟨builder.nodes.push ⟨kind, children, none, grown⟩⟩
  pure id

/-- Ask for a node, and go on with the builder that this leaves. -/
def step (builder : Builder) (kind : NodeKind) (children : List Nat) :
    Builder × Except BuildError Nat :=
  match node kind children builder with
  | .error error builder => (builder, .error error)
  | .ok id builder => (builder, .ok id)

end Builder

/-! ## Finished expressions -/

/-- A finished tree. -/
structure Expression where
  nodes : Array Node
  root : Nat
  root_lt : root < nodes.size

/-- The first node other than the root that has no parent. -/
def firstDetached? (nodes : Array Node) (root : Nat) : Option Node :=
  (nodes.toList.zipIdx.find? fun (node, id) => id != root && node.parent.isNone).map Prod.fst

/-- Finish the tree below a root.  The root must have no parent, and every other node one. -/
def Builder.build (builder : Builder) (root : Nat) : Except BuildError Expression :=
  if known : root < builder.nodes.size then
    if builder.nodes[root].parent.isSome then
      .error (.alreadyAttached builder.nodes[root].kind.name)
    else
      match firstDetached? builder.nodes root with
      | some node => .error (.detached node.kind.name)
      | none => .ok ⟨builder.nodes, root, known⟩
  else .error (.unknownRoot root)

namespace Expression

/-- The term at the root. -/
def term (expression : Expression) : Term :=
  have := expression.root_lt
  expression.nodes[expression.root].grown.term

/-- The number of nodes. -/
def size (expression : Expression) : Nat :=
  expression.nodes.size

/-! ## Identifiers -/

/-- Put a name into an ascending list of names, unless it is there. -/
def insertName (name : String) : List String → List String
  | [] => [name]
  | first :: rest =>
    if name < first then name :: first :: rest
    else if name = first then first :: rest
    else first :: insertName name rest

/-- The name of a property node. -/
def Node.property? (node : Node) : Option String :=
  match node.kind with
  | .property name => some name
  | _ => none

/-- The names of all properties in the tree, ascending and without repetition. -/
def identifiers (expression : Expression) : List String :=
  (expression.nodes.toList.filterMap Node.property?).foldr insertName []

/-- Whether the tree names no property. -/
def isConstant (expression : Expression) : Bool :=
  expression.identifiers.isEmpty

/-! ## Runs -/

/-- The nodes of the run of a connective that ends in a node, in front of the `later` ones. -/
def runBefore (nodes : Array Node) (operator : Connective) (id : Nat) (later : List Nat) :
    List Nat :=
  match nodes[id]? with
  | some ⟨.connect found, [left, right], _, _⟩ =>
    if found = operator ∧ left < id then runBefore nodes operator left (right :: later)
    else id :: later
  | _ => id :: later
termination_by id

/-- The operands of the run rooted at a node, from left to right.  A node that is no connective is
its own only operand. -/
def chainOperands (expression : Expression) (id : Nat) : List Nat :=
  match expression.nodes[id]? with
  | some ⟨.connect operator, _, _, _⟩ => runBefore expression.nodes operator id []
  | _ => [id]

end Expression

end Sift
