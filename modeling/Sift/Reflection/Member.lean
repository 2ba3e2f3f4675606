import Sift.Value.Property

/-!
# Members of a type

A type declares what its objects offer by name: methods that read or write one property each, and
fields.  The body of a member works on the objects themselves, and it hands out and takes in a
property in the form its declared type prescribes, so a member cannot yield a value of another
kind.

A method may fail with a message of its own.  A method that writes is given the object and returns
it together with its outcome, so what a failing write leaves behind is visible.  Reading and
writing a field never fails.
-/

namespace Sift

/-- Whether a type or a member is visible outside the module that declares it. -/
inductive Visibility where
  | shown
  | hidden
  deriving DecidableEq, Repr

/-- The name of a visibility. -/
def Visibility.name : Visibility → String
  | .shown => "Public"
  | .hidden => "Private"

/-! ## Bodies -/

/-- How a property is read from an object. -/
structure Reading (α : Type) where
  type : PropertyType
  run : α → Except String type.Carrier

/-- How a property is written to an object. -/
structure Writing (α : Type) where
  type : PropertyType
  run : α → type.Carrier → α × Except String Unit

/-- The value read from an object. -/
def Reading.value {α : Type} (reading : Reading α) (object : α) : Except String Value :=
  (reading.run object).map reading.type.toValue

/-! ## Methods -/

/-- What a method does. -/
inductive MethodBody (α : Type) where
  | read (reading : Reading α)
  | write (writing : Writing α)

/-- A method of a type. -/
structure Method (α : Type) where
  name : String
  visibility : Visibility
  body : MethodBody α

namespace Method

variable {α : Type}

/-- The reading of a method without parameters. -/
def reading? (method : Method α) : Option (Reading α) :=
  match method.body with
  | .read reading => some reading
  | .write _ => none

/-- The writing of a method with a parameter. -/
def writing? (method : Method α) : Option (Writing α) :=
  match method.body with
  | .read _ => none
  | .write writing => some writing

/-- The number of parameters. -/
def parameterCount (method : Method α) : Nat :=
  match method.body with
  | .read _ => 0
  | .write _ => 1

/-- The kind of what a method returns, if it returns anything. -/
def returnKind (method : Method α) : Option Kind :=
  method.reading?.map fun reading => reading.type.kind

/-- The kind of the parameter of a method, if it has one. -/
def parameterKind (method : Method α) : Option Kind :=
  method.writing?.map fun writing => writing.type.kind

/-- A method that reads a property. -/
def getter (name : String) (type : PropertyType) (read : α → type.Carrier) : Method α :=
  ⟨name, .shown, .read ⟨type, fun object => .ok (read object)⟩⟩

/-- A method that reads a property and is not visible outside. -/
def hiddenGetter (name : String) (type : PropertyType) (read : α → type.Carrier) : Method α :=
  ⟨name, .hidden, .read ⟨type, fun object => .ok (read object)⟩⟩

/-- A method that reads a property unless it fails. -/
def failingGetter (name : String) (type : PropertyType) (read : α → Except String type.Carrier) :
    Method α :=
  ⟨name, .shown, .read ⟨type, read⟩⟩

/-- A method that writes a property unless it fails. -/
def setter (name : String) (type : PropertyType)
    (write : α → type.Carrier → α × Except String Unit) : Method α :=
  ⟨name, .shown, .write ⟨type, write⟩⟩

end Method

/-! ## Fields -/

/-- A field of a type.  A final field cannot be written. -/
structure Field (α : Type) where
  name : String
  visibility : Visibility
  type : PropertyType
  read : α → type.Carrier
  write : Option (α → type.Carrier → α)

namespace Field

variable {α : Type}

/-- Whether a field cannot be written. -/
def isFinal (field : Field α) : Bool :=
  field.write.isNone

/-- How a field is read. -/
def reading (field : Field α) : Reading α :=
  ⟨field.type, fun object => .ok (field.read object)⟩

/-- How a field is written, unless it is final. -/
def writing? (field : Field α) : Option (Writing α) :=
  field.write.map fun write => ⟨field.type, fun object held => (write object held, .ok ())⟩

/-- A field that is not visible outside. -/
def hidden (name : String) (type : PropertyType) (read : α → type.Carrier)
    (write : α → type.Carrier → α) : Field α :=
  ⟨name, .hidden, type, read, some write⟩

/-- A field that is visible outside. -/
def shown (name : String) (type : PropertyType) (read : α → type.Carrier)
    (write : α → type.Carrier → α) : Field α :=
  ⟨name, .shown, type, read, some write⟩

/-- A field that is neither visible outside nor written. -/
def final (name : String) (type : PropertyType) (read : α → type.Carrier) : Field α :=
  ⟨name, .hidden, type, read, none⟩

end Field

end Sift
