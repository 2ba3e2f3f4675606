import Sift.Expression.Builder

/-!
# Dumping a tree

The dump of a tree encloses the dumps of the children of a node in tags that name the node.  A
term is dumped by recursion.  A finished expression is dumped with a stack of nodes to enter and to
leave instead, so that no depth of the tree can exhaust the machine's; each node is entered once
and left once, which bounds the number of steps.
-/

namespace Sift

/-- The tag before the contents of a node. -/
def openingTag (name : String) : String :=
  "<" ++ name ++ ">"

/-- The tag after the contents of a node. -/
def closingTag (name : String) : String :=
  "</" ++ name ++ ">"

namespace Expression

/-- Work through a stack of nodes, each to be left if its flag is set and to be entered
otherwise. -/
def dumpFrom (nodes : Array Node) : (steps : Nat) → List (Nat × Bool) → String → String
  | _, [], written => written
  | 0, _, written => written
  | steps + 1, (id, leaving) :: stack, written =>
    match nodes[id]? with
    | none => written
    | some node =>
      if leaving then dumpFrom nodes steps stack (written ++ closingTag node.kind.name)
      else
        dumpFrom nodes steps (node.children.map (·, false) ++ (id, true) :: stack)
          (written ++ openingTag node.kind.name)

/-- The dump of a finished expression. -/
def dump (expression : Expression) : String :=
  dumpFrom expression.nodes (2 * expression.size) [(expression.root, false)] ""

end Expression

/-! ## The recursive dump -/

mutual
/-- The dump of a term. -/
def Term.dump : Term → String
  | .property name => openingTag name ++ closingTag name
  | .literal content => enclosed (.literal content) ""
  | .connect operator left right => enclosed (.connect operator) (left.dump ++ right.dump)
  | .not operand => enclosed .not operand.dump
  | .isNull operand => enclosed .isNull operand.dump
  | .between value low high => enclosed .between (value.dump ++ low.dump ++ high.dump)
  | .inList value items => enclosed .inList (value.dump ++ dumpAll items)
  | .like subject pattern => enclosed .like (subject.dump ++ pattern.dump)
  | .compare operator left right => enclosed (.compare operator) (left.dump ++ right.dump)
  | .any operands => enclosed .any (dumpAll operands)
  | .arithmetic operator left right => enclosed (.arithmetic operator) (left.dump ++ right.dump)
  | .negate operand => enclosed .negate operand.dump
where
  /-- The contents of a node between its tags. -/
  enclosed (kind : NodeKind) (contents : String) : String :=
    openingTag kind.name ++ contents ++ closingTag kind.name

/-- The dumps of terms one after the other. -/
def Term.dumpAll : List Term → String
  | [] => ""
  | term :: rest => term.dump ++ Term.dumpAll rest
end

end Sift
