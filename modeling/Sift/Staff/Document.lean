import Sift.Json.Number
import Sift.Json.Reader
import Sift.Json.Writer
import Sift.Staff.Loading

/-!
# Staff in documents

A person is written as an object with four members.  It is read from such an object, in which any
member may be missing and unknown ones are skipped, or from an array of the four in order, which
may end early.  A member that is there twice makes an object unreadable.

An employee's document is flat: the members of the person stand beside the employee's own.  While
the person's members are put aside until the employee's own are read, they are held as values, so
in this case everything that is put aside has to make sense: strings stand for texts, numbers are
not too large, and values do not nest too deeply.

Lists of persons in such documents are what the codec `Codec.direct` reads.
-/

namespace Sift

namespace Json

/-! ## Parts of documents -/

/-- A text. -/
def asText? : Json → Option String
  | .string content => textOf content
  | _ => none

/-- A truth value. -/
def asBoolean? : Json → Option Bool
  | .boolean b => some b
  | _ => none

/-- A 32-bit integer. -/
def asInt32? : Json → Option Int32
  | .number numeral =>
    numeral.integer?.bind fun n =>
      if Int32.minValue.toInt ≤ n ∧ n ≤ Int32.maxValue.toInt then some (Int32.ofInt n) else none
  | _ => none

/-- A 64-bit integer. -/
def asInt64? : Json → Option Int64
  | .number numeral => numeral.integer?.bind Number.int64?
  | _ => none

/-- A float. -/
def asFloat? : Json → Option Float
  | .number numeral => numeral.float?
  | _ => none

/-- Something that may be null. -/
def orNull? {α : Type} (decode : Json → Option α) : Json → Option (Option α)
  | .null => some none
  | json => (decode json).map some

/-- The keys of members as texts. -/
def keyed? (members : List (List Piece × Json)) : Option (List (String × Json)) :=
  members.mapM fun (key, value) => (textOf key).map fun key => (key, value)

/-- The value of the member of a name, or a default if there is none.  Two of them are too many. -/
def member? {α : Type} (members : List (String × Json)) (name : String) (decode : Json → Option α)
    (default : α) : Option α :=
  match members.filter fun member => member.1 == name with
  | [] => some default
  | [member] => decode member.2
  | _ => none

/-- The next item of an array, or a default behind its end. -/
def item? {α : Type} (items : List Json) (position : Nat) (decode : Json → Option α)
    (default : α) : Option α :=
  match items[position]? with
  | none => some default
  | some item => decode item

mutual
/-- Whether a value can be put aside where it may contain so many more levels of values. -/
def isTenable (room : Nat) : Json → Bool
  | .null | .boolean _ => true
  | .number numeral => numeral.float?.isSome
  | .string content => (textOf content).isSome
  | .array items => room != 0 && areTenable (room - 1) items
  | .object members => room != 0 && membersAreTenable (room - 1) members

/-- Whether all items can be put aside. -/
def areTenable (room : Nat) : List Json → Bool
  | [] => true
  | item :: rest => item.isTenable room && areTenable room rest

/-- Whether all members can be put aside. -/
def membersAreTenable (room : Nat) : List (List Piece × Json) → Bool
  | [] => true
  | (key, value) :: rest =>
    (textOf key).isSome && value.isTenable room && membersAreTenable room rest
end

/-- The levels of values that a member of an employee in a list may contain. -/
def memberRoom : Nat := 125

end Json

/-! ## Genders -/

/-- The gender of exactly this name. -/
def Gender.ofName? (name : String) : Option Gender :=
  [Gender.male, .female].find? fun gender => gender.name == name

/-- The gender that a piece of a document names, alone or as the key of a null. -/
def Gender.ofJson? : Json → Option Gender
  | .string content => (Json.textOf content).bind ofName?
  | .object [(key, .null)] => (Json.textOf key).bind ofName?
  | _ => none

/-- The same among what was put aside, where an object without members will do for a null. -/
def Gender.ofHeld? : Json → Option Gender
  | .object [(key, .object [])] => (Json.textOf key).bind ofName?
  | json => ofJson? json

/-! ## Persons -/

namespace Person

/-- A person from the members of an object. -/
def ofMembers? (gender : Json → Option Gender) (members : List (String × Json)) :
    Option Person := do
  let name ← Json.member? members "name" (Json.orNull? Json.asText?) none
  let age ← Json.member? members "age" Json.asInt32? 0
  let gender ← Json.member? members "gender" (Json.orNull? gender) none
  let fired ← Json.member? members "firedNearRetirement" Json.asBoolean? false
  pure ⟨name, age, gender, fired⟩

/-- A person from the items of an array. -/
def ofItems? (items : List Json) : Option Person := do
  let name ← Json.item? items 0 (Json.orNull? Json.asText?) none
  let age ← Json.item? items 1 Json.asInt32? 0
  let gender ← Json.item? items 2 (Json.orNull? Gender.ofJson?) none
  let fired ← Json.item? items 3 Json.asBoolean? false
  if items.length ≤ 4 then pure ⟨name, age, gender, fired⟩ else none

/-- A person from a piece of a document. -/
def ofJson? : Json → Option Person
  | .object members => (Json.keyed? members).bind (ofMembers? Gender.ofJson?)
  | .array items => ofItems? items
  | _ => none

/-- A text or null. -/
def textOrNull : Option String → Json
  | none => .null
  | some text => .string (Json.spelling text)

/-- A person as a document. -/
def toJson (person : Person) : Json :=
  .object [
    (Json.spelling "name", textOrNull person.name),
    (Json.spelling "age", .number (.ofInt person.age.toInt)),
    (Json.spelling "gender", textOrNull (person.gender.map Gender.name)),
    (Json.spelling "firedNearRetirement", .boolean person.firedNearRetirement)]

/-- The text of a person's document. -/
def record (person : Person) : String :=
  person.toJson.text

end Person

/-! ## Employees -/

namespace Employee

/-- Whether a member is the employee's own. -/
def isOwn (name : String) : Bool :=
  name == "employeeId" || name == "salary"

/-- An employee from the members of an object. -/
def ofMembers? (members : List (String × Json)) : Option Employee := do
  let employeeId ← Json.member? members "employeeId" Json.asInt64? 0
  let salary ← Json.member? members "salary" (Json.orNull? Json.asFloat?) none
  let others := members.filter fun member => !isOwn member.1
  if others.all fun member => member.2.isTenable Json.memberRoom then
    let person ← Person.ofMembers? Gender.ofHeld? others
    pure ⟨person, employeeId, salary⟩
  else none

/-- An employee from a piece of a document. -/
def ofJson? : Json → Option Employee
  | .object members => (Json.keyed? members).bind ofMembers?
  | _ => none

end Employee

/-! ## Lists -/

/-- The objects in a document that is an array of them. -/
def readAll? {α : Type} (decode : Json → Option α) (text : String) : Option (List α) :=
  match Json.read text with
  | some (.array items) => items.mapM decode
  | _ => none

/-- The codec of such documents. -/
@[reducible]
def Codec.direct : Codec where
  decode document :=
    match readAll? Person.ofJson? document with
    | some people => .ok people
    | none => .error "not an array of persons"
  encode person := .ok person.record

end Sift
