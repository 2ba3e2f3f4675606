import Sift.Reflection.Descriptor
import Sift.Number.Shortest
import Sift.Text.Case

/-!
# Staff

The objects that predicates are asked about: persons, and employees, who are persons with a number
and perhaps a salary.  Of a person's methods only the one for the name is visible outside among
those that read.  A gender is set by its name in any case, and a salary must not be negative; a
setter that refuses a value leaves the object as it was.
-/

namespace Sift

/-! ## Persons -/

/-- The two genders on file. -/
inductive Gender where
  | male
  | female
  deriving DecidableEq, Repr

namespace Gender

/-- The name of a gender. -/
def name : Gender → String
  | male => "MALE"
  | female => "FEMALE"

/-- The gender that a text names, ignoring case. -/
def ofText? (text : String) : Option Gender :=
  if Text.spells text.toList "MALE" then some male
  else if Text.spells text.toList "FEMALE" then some female
  else none

end Gender

/-- A person. -/
structure Person where
  name : Option String := none
  age : Int32 := 0
  gender : Option Gender := none
  firedNearRetirement : Bool := false
  deriving DecidableEq, Repr

namespace Person

/-- Fire a person. -/
def fire (person : Person) : Person :=
  { person with firedNearRetirement := true }

/-- Hire a person again. -/
def hire (person : Person) : Person :=
  { person with firedNearRetirement := false }

/-- Set the gender that a text names; without a text, none. -/
def setGender (person : Person) : Option String → Person × Except String Unit
  | none => ({ person with gender := none }, .ok ())
  | some text =>
    match Gender.ofText? text with
    | some gender => ({ person with gender := some gender }, .ok ())
    | none => (person, .error ("unknown gender '" ++ text ++ "'"))

end Person

/-! ## Employees -/

/-- An employee. -/
structure Employee where
  person : Person := {}
  employeeId : Int64 := 0
  salary : Option Float := none

namespace Employee

/-- Set the salary, which must not be negative. -/
def setSalary (employee : Employee) (salary : Option Float) : Employee × Except String Unit :=
  match salary with
  | some amount =>
    if amount < 0 then (employee, .error ("negative salary " ++ Number.text amount))
    else ({ employee with salary := salary }, .ok ())
  | none => ({ employee with salary := salary }, .ok ())

end Employee

/-! ## Named objects -/

/-- Objects that may have a name. -/
class Named (α : Type) where
  name : α → Option String

/-- The name of an object, or a stand-in. -/
def Named.displayName {α : Type} [Named α] (object : α) : String :=
  (Named.name object).getD "(unnamed)"

instance : Named Employee where
  name employee := employee.person.name

/-- The interface of named objects for a type that implements it. -/
def Named.interface {ι : Type} {El : ι → Type} (type : ι) [Named (El type)] : Descriptor El type :=
  .base
    { name := "Named"
      form := .interfaceType
      visibility := .shown
      methods := [.getter "getDisplayName" (.required .text) Named.displayName]
      fields := [] }
    .nil

/-! ## Descriptors -/

/-- The types of the staff. -/
inductive StaffType where
  | person
  | employee
  deriving DecidableEq, Repr

/-- The objects of the staff. -/
abbrev Staff : StaffType → Type
  | .person => Person
  | .employee => Employee

/-- What a person declares. -/
def Person.declaration : Declaration (Staff .person) where
  name := "Person"
  form := .classType
  visibility := .shown
  methods := [
    .getter "getName" (.optional (.required .text)) fun person => person.name,
    .setter "setName" (.optional (.required .text)) fun person name =>
      ({ person with name := name }, .ok ()),
    .hiddenGetter "getAge" (.required .int32) fun person => person.age,
    .setter "setAge" (.required .int32) fun person age => ({ person with age := age }, .ok ()),
    .hiddenGetter "getGender" (.optional (.required .text)) fun person =>
      person.gender.map Gender.name,
    .setter "setGender" (.optional (.required .text)) Person.setGender,
    .hiddenGetter "isFiredNearRetirement" (.required .boolean) fun person =>
      person.firedNearRetirement]
  fields := [
    .hidden "name" (.optional (.required .text)) (fun person => person.name) fun person name =>
      { person with name := name },
    .hidden "age" (.required .int32) (fun person => person.age) fun person age =>
      { person with age := age },
    .hidden "firedNearRetirement" (.required .boolean) (fun person => person.firedNearRetirement)
      fun person fired => { person with firedNearRetirement := fired }]

/-- The type of persons. -/
def Person.descriptor : Descriptor Staff .person :=
  .base Person.declaration .nil

/-- What an employee declares beyond a person. -/
def Employee.declaration : Declaration (Staff .employee) where
  name := "Employee"
  form := .classType
  visibility := .shown
  methods := [
    .getter "getEmployeeId" (.required .int64) fun employee => employee.employeeId,
    .getter "getSalary" (.optional (.required .float64)) fun employee => employee.salary,
    .setter "setSalary" (.optional (.required .float64)) Employee.setSalary]
  fields := [
    .shown "employeeId" (.required .int64) (fun employee => employee.employeeId)
      fun employee employeeId => { employee with employeeId := employeeId }]

/-- The person in an employee. -/
def Employee.personPart : Embedding (Staff .employee) (Staff .person) where
  project employee := employee.person
  replace employee person := { employee with person := person }

/-- The interface of named objects for employees. -/
def Employee.namedInterface : Descriptor Staff .employee :=
  Named.interface StaffType.employee

/-- The type of employees. -/
def Employee.descriptor : Descriptor Staff .employee :=
  .derived Employee.declaration Employee.personPart Person.descriptor
    (.ofList [Employee.namedInterface])

end Sift
