import Sift.Value.Basic

/-!
# Failures of property access

Looking for an accessor may fail, because a type and all its ancestors have none for a property.
Using an accessor that was found may fail as well: the member reports a failure of its own, access
to it is not allowed, the object is not of the declaring type, or the value cannot be stored.
-/

namespace Sift

/-- The two uses of a property. -/
inductive Access where
  | getter
  | setter
  deriving DecidableEq, Repr

/-- The name of a use in messages. -/
def Access.name : Access → String
  | .getter => "getter"
  | .setter => "setter"

/-- No accessor of this use exists for a property in the ancestry of a type. -/
structure MissingAccessor where
  access : Access
  typeName : String
  property : String
  deriving DecidableEq, Repr

/-- The text of a missing accessor. -/
def MissingAccessor.message (missing : MissingAccessor) : String :=
  "Could not find a " ++ missing.access.name ++ " for property '" ++ missing.property ++
    "' in " ++ missing.typeName

/-! ## Failures of an accessor -/

/-- What went wrong in using an accessor. -/
inductive AccessFault where
  | getterFailed (message : String)
  | setterFailed (message : String)
  | illegalAccess
  | argumentMismatch
  | valueMismatch (expected actual : Kind)
  | nullAssignment
  deriving DecidableEq, Repr

/-- A fault of the accessor for a property, declared by a type. -/
structure AccessError where
  typeName : String
  property : String
  fault : AccessFault
  deriving DecidableEq, Repr

/-- The text of an access error. -/
def AccessError.message (error : AccessError) : String :=
  let member := error.typeName ++ "." ++ error.property
  match error.fault with
  | .getterFailed message => "Exception occurred inside getter of " ++ member ++ ": " ++ message
  | .setterFailed message => "Exception occurred inside setter of " ++ member ++ ": " ++ message
  | .illegalAccess => "Illegal access to " ++ member
  | .argumentMismatch =>
    "Object is not an instance of " ++ error.typeName ++ " while accessing " ++ member
  | .valueMismatch expected actual =>
    "Cannot assign a " ++ actual.name ++ " value to " ++ member ++ " of kind " ++ expected.name
  | .nullAssignment => "Null value was assigned to a non-nullable property " ++ member

end Sift
