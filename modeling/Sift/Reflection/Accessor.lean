import Sift.Reflection.Descriptor
import Sift.Reflection.Error

/-!
# Accessors

An accessor is a member that was found for a property, together with the type whose objects it
takes and the path from such an object to the part the member works on.  It can be used on any
object: one of another type is refused, so are a member that is not visible outside and was not
made accessible, and a value that the property's type does not accept.

Setting returns the object together with the outcome.  A refusal leaves the object as it was; only
a member that fails on its own account may leave something behind.
-/

namespace Sift

variable {ι : Type} {El : ι → Type}

/-- An object of some type. -/
structure Object (El : ι → Type) where
  type : ι
  state : El type

/-- The two sorts of members. -/
inductive MemberSort where
  | method
  | field
  deriving DecidableEq, Repr

/-- The name of a sort of members. -/
def MemberSort.name : MemberSort → String
  | .method => "Method"
  | .field => "Field"

/-- Where a member was found for a property, and how it is reached. -/
structure Binding (El : ι → Type) where
  bound : ι
  part : ι
  path : Path El bound part
  declaringType : String
  property : String
  memberName : String
  memberSort : MemberSort
  isExposed : Bool
  isForced : Bool := true

namespace Binding

/-- The binding of a member that a descriptor at the end of a path declares. -/
def ofMember {start type : ι} (path : Path El start type) (declared : Declaration (El type))
    (property memberName : String) (memberSort : MemberSort) (visibility : Visibility) :
    Binding El where
  bound := start
  part := type
  path := path
  declaringType := declared.name
  property := property
  memberName := memberName
  memberSort := memberSort
  isExposed := declared.exposes visibility

/-- Whether the member may be used. -/
def isAccessible (binding : Binding El) : Bool :=
  binding.isExposed || binding.isForced

/-- The name of the method, if the member is one. -/
def methodName? (binding : Binding El) : Option String :=
  match binding.memberSort with
  | .method => some binding.memberName
  | .field => none

/-- An error of the accessor. -/
def error (binding : Binding El) (fault : AccessFault) : AccessError :=
  ⟨binding.declaringType, binding.property, fault⟩

/-- A binding in messages. -/
def describe (binding : Binding El) (access : String) : String :=
  binding.memberSort.name ++ access ++
    "(" ++ binding.declaringType ++ "." ++ binding.property ++ ")"

end Binding

/-! ## Getters -/

/-- A member that reads a property. -/
structure Getter (El : ι → Type) extends Binding El where
  reading : Reading (El part)

namespace Getter

/-- The kind of the values that are not null. -/
def kind (getter : Getter El) : Kind :=
  getter.reading.type.kind

/-- A getter in messages. -/
def describe (getter : Getter El) : String :=
  getter.toBinding.describe "Getter"

/-- Allow or forbid the use of a member that is not visible outside. -/
def setAccessible (getter : Getter El) (allowed : Bool) : Getter El :=
  { getter with isForced := allowed }

/-- Read the property of an object. -/
def get [DecidableEq ι] (getter : Getter El) (object : Object El) : Except AccessError Value :=
  if getter.isAccessible then
    if same : object.type = getter.bound then
      (getter.reading.value (getter.path.project (same ▸ object.state))).mapError fun message =>
        getter.error (.getterFailed message)
    else .error (getter.error .argumentMismatch)
  else .error (getter.error .illegalAccess)

end Getter

/-! ## Setters -/

/-- A member that writes a property; a final field has a kind but cannot be written. -/
structure Setter (El : ι → Type) extends Binding El where
  kind : Kind
  writing? : Option (Writing (El part))

namespace Setter

/-- A setter in messages. -/
def describe (setter : Setter El) : String :=
  setter.toBinding.describe "Setter"

/-- Allow or forbid the use of a member that is not visible outside. -/
def setAccessible (setter : Setter El) (allowed : Bool) : Setter El :=
  { setter with isForced := allowed }

/-- The fault of a value that is not accepted. -/
def refusalFault : PropertyType.Refusal → AccessFault
  | .null => .nullAssignment
  | .mismatch expected actual => .valueMismatch expected actual

/-- Write the property of an object that the setter takes. -/
def write (setter : Setter El) (writing : Writing (El setter.part)) (receiver : El setter.bound)
    (value : Value) : El setter.bound × Except AccessError Unit :=
  match writing.type.accept value with
  | .error refusal => (receiver, .error (setter.error (refusalFault refusal)))
  | .ok held =>
    let (inner, outcome) := writing.run (setter.path.project receiver) held
    (setter.path.replace receiver inner,
      outcome.mapError fun message => setter.error (.setterFailed message))

/-- Write the property of an object, which stays one of its type. -/
def set [DecidableEq ι] (setter : Setter El) (object : Object El) (value : Value) :
    El object.type × Except AccessError Unit :=
  if setter.isAccessible then
    match setter.writing? with
    | none => (object.state, .error (setter.error .illegalAccess))
    | some writing =>
      if same : object.type = setter.bound then
        let (state, outcome) := setter.write writing (same ▸ object.state) value
        (same ▸ state, outcome)
      else (object.state, .error (setter.error .argumentMismatch))
  else (object.state, .error (setter.error .illegalAccess))

end Setter

end Sift
