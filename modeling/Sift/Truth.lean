/-!
# Three-valued truth

A predicate is true, false or unknown.  Unknown stands for a truth value that is not known yet, so
a connective answers as soon as one operand settles the answer and stays unknown otherwise.
-/

namespace Sift

/-- True, false, or unknown (`none`). -/
abbrev Truth := Option Bool

namespace Truth

/-- False as soon as one side is false, true when both are true. -/
def and : Truth → Truth → Truth
  | some false, _ => some false
  | _, some false => some false
  | some true, some true => some true
  | _, _ => none

/-- True as soon as one side is true, false when both are false. -/
def or : Truth → Truth → Truth
  | some true, _ => some true
  | _, some true => some true
  | some false, some false => some false
  | _, _ => none

/-- The negation of unknown is unknown. -/
def not (operand : Truth) : Truth :=
  operand.map Bool.not

/-- Only definite truth selects; false and unknown both do not. -/
def selects (truth : Truth) : Bool :=
  truth == some true

end Truth

end Sift
