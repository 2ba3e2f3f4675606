import Sift.Expression.Error

/-!
# Checking kinds

Before a term is evaluated for any candidate, its operands are checked against the demands of the
nodes they stand under.  A schema gives the kinds of properties; a kind that is not known meets
every demand, so a check with less knowledge never rejects more.  The operands of a node, a whole
run in the case of a connective, are all checked before the node's own demands.
-/

namespace Sift

/-- What is known about the kinds of properties. -/
abbrev Schema := String → Option Kind

/-- What checking an operand gives: its kind, as far as it is known. -/
abbrev Checked := Except TypeError (Option Kind)

/-! ## Demands -/

/-- Whether an operand of a kind meets a demand on its own. -/
def Demand.accepts : Demand → Kind → Bool
  | .boolean, kind => kind == .boolean
  | .numeric, kind => kind.isNumeric
  | .string, kind => kind == .string
  | .stringOrPattern, kind => kind == .string || kind == .pattern
  | .numericOrStrings, kind => kind.isNumeric || kind == .string

/-- Hold one operand against a demand. -/
def Demand.check (demand : Demand) (context : String) : Option Kind → Except TypeError Unit
  | none => .ok ()
  | some kind => if demand.accepts kind then .ok () else .error ⟨context, demand, kind⟩

/-- Hold operands against a demand, from left to right. -/
def Demand.checkAll (demand : Demand) (context : String) :
    List (Option Kind) → Except TypeError Unit
  | [] => .ok ()
  | kind :: rest => (demand.check context kind).bind fun _ => demand.checkAll context rest

/-- The kinds of all operands, or the first error. -/
def kindsOf : List Checked → Except TypeError (List (Option Kind))
  | [] => .ok []
  | checked :: rest => checked.bind fun kind => (kindsOf rest).map (kind :: ·)

/-! ## Rules of the nodes -/

/-- A node whose operands are truth values. -/
def checkBooleans (context : String) (operands : List Checked) : Checked :=
  (kindsOf operands).bind fun kinds =>
    (Demand.boolean.checkAll context kinds).map fun _ => some .boolean

/-- A test that takes operands of any kind. -/
def checkTest (operands : List Checked) : Checked :=
  (kindsOf operands).map fun _ => some .boolean

/-- The operands of `BETWEEN` are all numbers or all strings. -/
def checkBetween (operands : List Checked) : Checked :=
  (kindsOf operands).bind fun kinds =>
    let known := kinds.filterMap id
    if known.all Kind.isNumeric || known.all (· == .string) then .ok (some .boolean)
    else
      let actual := (known.find? fun kind => !kind.isNumeric).getD .string
      .error ⟨NodeKind.between.name, .numericOrStrings, actual⟩

/-- `LIKE` matches a string against a string or a pattern. -/
def checkLike (subject pattern : Checked) : Checked :=
  subject.bind fun subject =>
    pattern.bind fun pattern =>
      (Demand.string.check NodeKind.like.name subject).bind fun _ =>
        (Demand.stringOrPattern.check NodeKind.like.name pattern).map fun _ => some .boolean

/-- The kind of a result of arithmetic, as far as it is known. -/
def resultKind : Option Kind → Option Kind → Option Kind
  | some .integer, some .integer => some .integer
  | some .float, _ => some .float
  | _, some .float => some .float
  | _, _ => none

/-- Arithmetic takes numbers. -/
def checkArithmetic (operator : Arithmetic) (left right : Checked) : Checked :=
  left.bind fun left =>
    right.bind fun right =>
      (Demand.numeric.checkAll operator.symbol [left, right]).map fun _ => resultKind left right

/-- A sign stands before a number. -/
def checkNegation (operand : Checked) : Checked :=
  operand.bind fun kind => (Demand.numeric.check NodeKind.negate.name kind).map fun _ => kind

/-! ## The checker -/

/-- The kind of a term under a schema, as far as it is known. -/
def Term.check (schema : Schema) : Term → Checked
  | .property name => .ok (schema name)
  | .literal content => .ok content.value.kind
  | .connect operator left right =>
    checkBooleans operator.name ((runOf operator left right).attach.map fun operand =>
      operand.val.check schema)
  | .not operand => checkBooleans NodeKind.not.name [operand.check schema]
  | .isNull operand => checkTest [operand.check schema]
  | .between value low high =>
    checkBetween [value.check schema, low.check schema, high.check schema]
  | .inList value items => checkTest (value.check schema :: items.map fun item => item.check schema)
  | .like subject pattern => checkLike (subject.check schema) (pattern.check schema)
  | .compare _ left right => checkTest [left.check schema, right.check schema]
  | .any operands =>
    checkBooleans NodeKind.any.name (operands.map fun operand => operand.check schema)
  | .arithmetic operator left right =>
    checkArithmetic operator (left.check schema) (right.check schema)
  | .negate operand => checkNegation (operand.check schema)
termination_by term => sizeOf term
decreasing_by
  all_goals first
    | exact sizeOf_lt_of_mem_runOf (Subtype.property _)
    | decreasing_tactic

/-- A connective is checked on the operands of its run. -/
theorem Term.check_connect (schema : Schema) (operator : Connective) (left right : Term) :
    (Term.connect operator left right).check schema =
      checkBooleans operator.name ((runOf operator left right).map fun operand =>
        operand.check schema) := by
  rw [Term.check, List.attach_map_val (f := Term.check schema)]

/-- Check a term that is to select candidates: its kind must be boolean, unless it is not known. -/
def Term.checkPredicate (schema : Schema) (term : Term) : Except TypeError Unit :=
  (term.check schema).bind fun
    | none | some .boolean => .ok ()
    | some kind => .error ⟨"predicate", .boolean, kind⟩

end Sift
