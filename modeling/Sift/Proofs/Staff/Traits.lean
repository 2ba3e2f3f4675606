import Sift.Proofs.Query.Strategies
import Sift.Proofs.Reflection.Setters

/-!
# Setting the traits of the staff

A person has four traits, and an employee has two more beside those of the person inside.  That is
all there is to them (`Staff.eq_of_places`).  Each member that writes fills one of the traits: it
puts there what it is given, or it fails and leaves the object as it was.  The setter for a gender
looks up the text, and the one for a salary refuses negative amounts; both do so before anything is
stored.

Whatever setter the strategies find for a property is one for such a member, in the employee or in
the person inside, and the getter that the standard strategies find for the same property reads the
trait that the setter fills (`StaffType.set_trait`).
-/

set_option autoImplicit false

namespace Sift

/-! ## Traits -/

/-- What the objects of a type hold themselves. -/
inductive Trait : StaffType → Type where
  | name : Trait .person
  | age : Trait .person
  | gender : Trait .person
  | firedNearRetirement : Trait .person
  | employeeId : Trait .employee
  | salary : Trait .employee

/-- Which objects are parts of others. -/
inductive StaffType.Contains : StaffType → StaffType → Type where
  | person : StaffType.Contains .employee .person

namespace Trait

/-- The form in which a trait is held. -/
abbrev Content : {type : StaffType} → Trait type → Type
  | _, name => Option String
  | _, age => Int32
  | _, gender => Option Gender
  | _, firedNearRetirement => Bool
  | _, employeeId => Int64
  | _, salary => Option Float

/-- Where a trait is held. -/
def slot : {type : StaffType} → (trait : Trait type) →
    Embedding (Staff type) trait.Content
  | _, name => ⟨fun person => person.name, fun person name => { person with name := name }⟩
  | _, age => ⟨fun person => person.age, fun person age => { person with age := age }⟩
  | _, gender =>
    ⟨fun person => person.gender, fun person gender => { person with gender := gender }⟩
  | _, firedNearRetirement =>
    ⟨fun person => person.firedNearRetirement,
      fun person fired => { person with firedNearRetirement := fired }⟩
  | _, employeeId =>
    ⟨fun employee => employee.employeeId,
      fun employee employeeId => { employee with employeeId := employeeId }⟩
  | _, salary =>
    ⟨fun employee => employee.salary, fun employee salary => { employee with salary := salary }⟩

/-- The name of a trait in the names of methods. -/
def title : {type : StaffType} → Trait type → String
  | _, name => "Name"
  | _, age => "Age"
  | _, gender => "Gender"
  | _, firedNearRetirement => "FiredNearRetirement"
  | _, employeeId => "EmployeeId"
  | _, salary => "Salary"

/-- A property is a trait by its name, whose first letter may be in the lower case. -/
def StandsFor {type : StaffType} (trait : Trait type) (property : String) : Prop :=
  property = trait.title ∨ property = Text.decapitalize trait.title

/-- The type as which a trait is read and written. -/
abbrev propertyType : {type : StaffType} → Trait type → PropertyType
  | _, name => .optional (.required .text)
  | _, age => .required .int32
  | _, gender => .optional (.required .text)
  | _, firedNearRetirement => .required .boolean
  | _, employeeId => .required .int64
  | _, salary => .optional (.required .float64)

/-- What a trait is read as. -/
def decode : {type : StaffType} → (trait : Trait type) → trait.Content →
    trait.propertyType.Carrier
  | _, name, content => content
  | _, age, content => content
  | _, gender, content => content.map Gender.name
  | _, firedNearRetirement, content => content
  | _, employeeId, content => content
  | _, salary, content => content

/-- What is held after a trait was written, if it can be. -/
def encode : {type : StaffType} → (trait : Trait type) → trait.propertyType.Carrier →
    Option trait.Content
  | _, name, held => some held
  | _, age, held => some held
  | _, gender, none => some none
  | _, gender, some text => (Gender.ofText? text).map some
  | _, firedNearRetirement, held => some held
  | _, employeeId, held => some held
  | _, salary, none => some none
  | _, salary, some amount => if amount < 0 then none else some (some amount)

/-- The value of a trait. -/
def toValue {type : StaffType} (trait : Trait type) (content : trait.Content) : Value :=
  trait.propertyType.toValue (trait.decode content)

/-- Which values can be set as a trait, and what is read afterwards. -/
inductive Takes : {type : StaffType} → Trait type → Value → Value → Prop where
  | name {value converted : Value}
      (converts : (PropertyType.optional (.required .text)).Converts value converted) :
      Takes .name value converted
  | age {value converted : Value}
      (converts : (PropertyType.required .int32).Converts value converted) :
      Takes .age value converted
  | noGender : Takes .gender .null .null
  | gender {text : String} {gender : Gender}
      (spelled : Text.spells text.toList gender.name = true) :
      Takes .gender (.string text) (.string gender.name)
  | firedNearRetirement {value converted : Value}
      (converts : (PropertyType.required .boolean).Converts value converted) :
      Takes .firedNearRetirement value converted
  | employeeId {value converted : Value}
      (converts : (PropertyType.required .int64).Converts value converted) :
      Takes .employeeId value converted
  | salary {value converted : Value}
      (converts : (PropertyType.optional (.required .float64)).Converts value converted)
      (legal : ∀ amount, converted = .float amount → ¬ amount < 0) :
      Takes .salary value converted

end Trait

/-- What the objects of the staff are made of. -/
def Staff.layout : Layout Staff where
  Slot := Trait
  Content := Trait.Content
  slot := Trait.slot
  Part := StaffType.Contains
  part
    | .person => Employee.personPart
  slot_keeps trait := by cases trait <;> exact fun _ _ => rfl
  part_keeps
    | .person => fun _ _ => rfl
  slot_apart_slot {_ trait trait'} different := by
    cases trait <;> cases trait' <;>
      first
      | exact absurd rfl different
      | exact ⟨fun _ _ => rfl, fun _ _ => rfl⟩
  slot_apart_part trait part := by
    cases part
    cases trait <;> exact ⟨fun _ _ => rfl, fun _ _ => rfl⟩
  part_apart_part := by
    rintro _ _ _ ⟨⟩ ⟨⟩ different
    exact absurd rfl different

/-- A person is made of traits. -/
theorem Person.eq_of_traits {first second : Person}
    (same : ∀ trait : Trait .person, trait.slot.project first = trait.slot.project second) :
    first = second := by
  cases first
  cases second
  cases same .name
  cases same .age
  cases same .gender
  cases same .firedNearRetirement
  rfl

/-- **The layout leaves nothing out.** -/
theorem Staff.eq_of_places {type : StaffType} {first second : Staff type}
    (same : ∀ place : Staff.layout.Place type,
      place.slot.project first = place.slot.project second) : first = second := by
  cases type with
  | person => exact Person.eq_of_traits fun trait => same ⟨_, .here, trait⟩
  | employee =>
    have inside := Person.eq_of_traits fun trait => same ⟨_, .into .person .here, trait⟩
    have employeeId := same ⟨_, .here, .employeeId⟩
    have salary := same ⟨_, .here, .salary⟩
    cases first
    cases second
    cases inside
    cases employeeId
    cases salary
    rfl

/-! ## What can be set -/

/-- A text names a gender if it spells its name. -/
theorem Gender.ofText?_eq_some_iff {text : String} {gender : Gender} :
    ofText? text = some gender ↔ Text.spells text.toList gender.name = true := by
  have spells_iff (word : String) : Text.spells text.toList word = true ↔
      Text.capitals? text.toList = some word.toList := beq_iff_eq
  simp only [ofText?, spells_iff]
  cases gender with
  | male =>
    by_cases male : Text.capitals? text.toList = some "MALE".toList
    · rw [if_pos male]
      exact iff_of_true rfl male
    · rw [if_neg male]
      refine iff_of_false ?_ male
      split <;> exact nofun
  | female =>
    by_cases male : Text.capitals? text.toList = some "MALE".toList
    · rw [if_pos male]
      refine iff_of_false nofun ?_
      rw [male]
      decide
    · rw [if_neg male]
      simp [Gender.name]

/-- What is held as it was converted stands for the converted value. -/
theorem PropertyType.converts_iff_held {type : PropertyType} {value converted : Value} :
    type.Converts value converted ↔ ∃ held content, type.accept value = .ok held ∧
      some held = some content ∧ type.toValue content = converted := by
  simp only [converts_iff, Option.some.injEq, exists_and_left, exists_eq_left']

namespace Trait

variable {value converted : Value}

theorem takes_gender_iff :
    gender.Takes value converted ↔ ∃ held content, gender.propertyType.accept value = .ok held ∧
      gender.encode held = some content ∧ gender.toValue content = converted := by
  constructor
  · intro takes
    cases takes with
    | noGender => exact ⟨none, none, rfl, rfl, rfl⟩
    | @gender text gender spelled =>
      refine ⟨some text, some gender, rfl, ?_, rfl⟩
      rw [encode, Gender.ofText?_eq_some_iff.2 spelled, Option.map_some]
  · rintro ⟨held, content, accepted, encoded, rfl⟩
    rcases PropertyType.ofValue?_optional_eq_some_iff.1
      (PropertyType.accept_eq_ok_iff.1 accepted) with ⟨rfl, rfl⟩ | ⟨-, text, found, rfl⟩
    · obtain rfl := Option.some.inj encoded
      exact .noGender
    · obtain ⟨gender, named, rfl⟩ := Option.map_eq_some_iff.1 encoded
      cases Scalar.converts_iff.2 ⟨text, found, rfl⟩
      exact .gender (Gender.ofText?_eq_some_iff.1 named)

theorem takes_salary_iff :
    salary.Takes value converted ↔ ∃ held content, salary.propertyType.accept value = .ok held ∧
      salary.encode held = some content ∧ salary.toValue content = converted := by
  constructor
  · intro takes
    cases takes with
    | salary converts legal =>
      obtain ⟨held, accepted, rfl⟩ := PropertyType.converts_iff.1 converts
      cases held with
      | none => exact ⟨none, none, accepted, rfl, rfl⟩
      | some amount =>
        exact ⟨some amount, some amount, accepted, if_neg (legal amount rfl), rfl⟩
  · rintro ⟨held, content, accepted, encoded, rfl⟩
    have converts := PropertyType.converts_iff.2 ⟨held, accepted, rfl⟩
    cases held with
    | none =>
      obtain rfl := Option.some.inj encoded
      exact .salary converts nofun
    | some amount =>
      obtain ⟨legal, same⟩ := Option.ite_none_left_eq_some.1 encoded
      obtain rfl := Option.some.inj same
      refine .salary converts fun other same => ?_
      cases same
      exact legal

/-- **A trait takes exactly the values from which it gets a content.** -/
theorem takes_iff {type : StaffType} {trait : Trait type} :
    trait.Takes value converted ↔ ∃ held content, trait.propertyType.accept value = .ok held ∧
      trait.encode held = some content ∧ trait.toValue content = converted := by
  cases trait with
  | gender => exact takes_gender_iff
  | salary => exact takes_salary_iff
  | _ =>
    -- the other traits hold what they are given as it was converted
    constructor
    · intro takes
      cases takes
      exact PropertyType.converts_iff_held.1 ‹_›
    · intro held
      constructor
      exact PropertyType.converts_iff_held.2 held

/-! ## Members that write -/

/-- What is run for writing a trait puts it there, or fails and leaves the object as it was. -/
abbrev Writes {type : StaffType} (trait : Trait type)
    (run : Staff type → trait.propertyType.Carrier → Staff type × Except String Unit) : Prop :=
  Writing.Fills ⟨trait.propertyType, run⟩ trait.slot trait.encode

theorem writes_name : name.Writes fun person name => ({ person with name := name }, .ok ()) :=
  fun _ held => .inl ⟨held, rfl, rfl⟩

theorem writes_age : age.Writes fun person age => ({ person with age := age }, .ok ()) :=
  fun _ held => .inl ⟨held, rfl, rfl⟩

theorem writes_firedNearRetirement : firedNearRetirement.Writes fun person fired =>
    ({ person with firedNearRetirement := fired }, .ok ()) :=
  fun _ held => .inl ⟨held, rfl, rfl⟩

theorem writes_employeeId : employeeId.Writes fun employee employeeId =>
    ({ employee with employeeId := employeeId }, .ok ()) :=
  fun _ held => .inl ⟨held, rfl, rfl⟩

/-- A text that names no gender is refused before anything is stored. -/
theorem writes_gender : gender.Writes Person.setGender := by
  rintro person (_ | text)
  · exact .inl ⟨none, rfl, rfl⟩
  · show (∃ content, (Gender.ofText? text).map some = some content ∧
        person.setGender (some text) = ({ person with gender := content }, .ok ())) ∨
      (Gender.ofText? text).map some = none ∧
        ∃ message, person.setGender (some text) = (person, .error message)
    rw [Person.setGender]
    cases Gender.ofText? text with
    | some gender => exact .inl ⟨some gender, rfl, rfl⟩
    | none => exact .inr ⟨rfl, _, rfl⟩

/-- A negative amount is refused before anything is stored. -/
theorem writes_salary : salary.Writes Employee.setSalary := by
  rintro employee (_ | amount)
  · exact .inl ⟨none, rfl, rfl⟩
  · by_cases negative : amount < 0
    · exact .inr ⟨if_pos negative, _, if_pos negative⟩
    · exact .inl ⟨some amount, if_neg negative, if_neg negative⟩

end Trait

/-- What stands behind the word of a name stands for the property. -/
theorem Names.stands {word rest property : String} (named : Names word (word ++ rest) property) :
    property = rest ∨ property = Text.decapitalize rest := by
  obtain ⟨rest', same, -, stands⟩ := named
  obtain rfl : rest = rest' := (String.append_right_inj word).1 same
  exact stands.imp Eq.symm Eq.symm

section Members

variable {start : StaffType} {property : String} {setter : Setter Staff}

/-- What a person declares for setting a property fills a trait of the person. -/
theorem Person.exists_trait {path : Path Staff start .person}
    (restores : ∀ state, path.replace state (path.project state) = state)
    (sets : Person.declaration.Sets path property setter) :
    ∃ trait : Trait .person, trait.StandsFor property ∧
      setter.Fills (path.part.comp trait.slot) trait.propertyType trait.encode := by
  cases sets with
  | @method method writing listed writes named =>
    simp only [Person.declaration, List.mem_cons, List.not_mem_nil, or_false] at listed
    rcases listed with rfl | rfl | rfl | rfl | rfl | rfl | rfl
    · cases writes
    · obtain rfl := Option.some.inj writes
      exact ⟨.name, Names.stands named, Setter.fills_of_writing restores Trait.writes_name⟩
    · cases writes
    · obtain rfl := Option.some.inj writes
      exact ⟨.age, Names.stands named, Setter.fills_of_writing restores Trait.writes_age⟩
    · cases writes
    · obtain rfl := Option.some.inj writes
      exact ⟨.gender, Names.stands named, Setter.fills_of_writing restores Trait.writes_gender⟩
    · cases writes
  | field listed named =>
    subst named
    simp only [Person.declaration, List.mem_cons, List.not_mem_nil, or_false] at listed
    rcases listed with rfl | rfl | rfl
    · exact ⟨.name, .inr rfl, Setter.fills_of_writing restores Trait.writes_name⟩
    · exact ⟨.age, .inr rfl, Setter.fills_of_writing restores Trait.writes_age⟩
    · exact ⟨.firedNearRetirement, .inr rfl,
        Setter.fills_of_writing restores Trait.writes_firedNearRetirement⟩

/-- What an employee declares beyond a person fills a trait of the employee. -/
theorem Employee.exists_trait {path : Path Staff start .employee}
    (restores : ∀ state, path.replace state (path.project state) = state)
    (sets : Employee.declaration.Sets path property setter) :
    ∃ trait : Trait .employee, trait.StandsFor property ∧
      setter.Fills (path.part.comp trait.slot) trait.propertyType trait.encode := by
  cases sets with
  | @method method writing listed writes named =>
    simp only [Employee.declaration, List.mem_cons, List.not_mem_nil, or_false] at listed
    rcases listed with rfl | rfl | rfl
    · cases writes
    · cases writes
    · obtain rfl := Option.some.inj writes
      exact ⟨.salary, Names.stands named, Setter.fills_of_writing restores Trait.writes_salary⟩
  | field listed named =>
    subst named
    obtain rfl := List.mem_singleton.1 listed
    exact ⟨.employeeId, .inr rfl, Setter.fills_of_writing restores Trait.writes_employeeId⟩

end Members

/-! ## Getters -/

/-- **The standard strategies find a getter for every trait, at the place where it is held.** -/
theorem StaffType.exists_getter {type : StaffType} (place : Staff.layout.Place type)
    {property : String} (stands : Trait.StandsFor place.key property) :
    ∃ getter, Strategy.findGetter Strategy.standard type.descriptor property = some getter ∧
      ∀ state, getter.get ⟨type, state⟩ =
        .ok (Trait.toValue place.key (place.slot.project state)) := by
  obtain ⟨inner, route, trait⟩ := place
  cases route with
  | here =>
    cases trait
    all_goals
      rcases stands with rfl | rfl
      · exact ⟨_, rfl, fun _ => rfl⟩
      · exact ⟨_, rfl, fun _ => rfl⟩
  | into part rest =>
    -- only persons are inside others, and nothing is inside them
    cases part
    cases rest with
    | into part rest => cases part
    | here =>
      cases trait
      all_goals
        rcases stands with rfl | rfl
        · exact ⟨_, rfl, fun _ => rfl⟩
        · exact ⟨_, rfl, fun _ => rfl⟩

/-! ## Setters -/

/-- **A setter that the strategies find fills a trait, of the object or of the person inside.** -/
theorem StaffType.exists_place {type : StaffType} {strategies : List (Strategy Staff)}
    (known : strategies ⊆ Strategy.standard) {property : String} {setter : Setter Staff}
    (found : Strategy.findSetter strategies type.descriptor property = some setter) :
    ∃ place : Staff.layout.Place type, Trait.StandsFor place.key property ∧
      setter.Fills place.slot (Trait.propertyType place.key) (Trait.encode place.key) := by
  obtain ⟨position, ancestor, reached, sets⟩ := Strategy.exists_sets known found
  have listed : (position, ancestor) ∈ type.descriptor.ancestry [] .here :=
    Descriptor.mem_ancestry_iff.2 reached
  cases type with
  | person =>
    obtain ⟨-, rfl⟩ := Prod.mk.inj (List.mem_singleton.1 listed)
    obtain ⟨trait, stands, fills⟩ := Person.exists_trait (fun _ => rfl) sets
    exact ⟨⟨_, .here, trait⟩, stands, fills⟩
  | employee =>
    have inside : ancestor ∈ [⟨_, .here, Employee.descriptor⟩,
        ⟨_, .superclass .here Employee.personPart, Person.descriptor⟩,
        ⟨_, .interface .here, Employee.namedInterface⟩] :=
      List.mem_map_of_mem (f := Prod.snd) listed
    simp only [List.mem_cons, List.not_mem_nil, or_false] at inside
    rcases inside with rfl | rfl | rfl
    · obtain ⟨trait, stands, fills⟩ := Employee.exists_trait (fun _ => rfl) sets
      exact ⟨⟨_, .here, trait⟩, stands, fills⟩
    · obtain ⟨trait, stands, fills⟩ := Person.exists_trait (fun _ => rfl) sets
      exact ⟨⟨_, .into .person .here, trait⟩, stands, fills⟩
    · -- what is named cannot be set
      cases sets with
      | method listed writes =>
        obtain rfl := List.mem_singleton.1 listed
        cases writes
      | field listed => cases listed

/-- **Setters on the staff are atomic.**  Let the setter be found for a property of persons or of
employees by methods, by fields or by the standard strategies.  There is a trait with the name of
the property, in the object or in the person inside it, which the getter reads that the standard
strategies find for the property.  Setting succeeds exactly if the trait takes the value, and leaves
the object as it is otherwise.  After it has succeeded, the getter reads the converted value, and
all other traits are unchanged. -/
theorem StaffType.set_trait {type : StaffType} {strategies : List (Strategy Staff)}
    (known : strategies ∈ [[Strategy.methods], [Strategy.fields], Strategy.standard])
    {property : String} {setter : Setter Staff}
    (found : ((Resolver.ofStrategies strategies).setter type.descriptor property).2 = .ok setter) :
    ∃ (place : Staff.layout.Place type) (getter : Getter Staff),
      Trait.StandsFor place.key property ∧
      (Resolver.standard.getter type.descriptor property).2 = .ok getter ∧
      (∀ state, getter.get ⟨type, state⟩ =
        .ok (Trait.toValue place.key (place.slot.project state))) ∧
      ∀ state value,
        ((setter.set ⟨type, state⟩ value).2 = .ok () ↔
          ∃ converted, Trait.Takes place.key value converted) ∧
        (∀ error, (setter.set ⟨type, state⟩ value).2 = .error error →
          (setter.set ⟨type, state⟩ value).1 = state) ∧
        ((setter.set ⟨type, state⟩ value).2 = .ok () →
          (∃ converted, Trait.Takes place.key value converted ∧
            getter.get ⟨type, (setter.set ⟨type, state⟩ value).1⟩ = .ok converted) ∧
          ∀ other : Staff.layout.Place type, other ≠ place →
            other.slot.project (setter.set ⟨type, state⟩ value).1 = other.slot.project state) := by
  have among : strategies ⊆ Strategy.standard := by
    simp only [List.mem_cons, List.not_mem_nil, or_false] at known
    rcases known with rfl | rfl | rfl <;> simp [Strategy.standard]
  rw [Resolver.setter_ofStrategies, Descriptor.answer_eq_ok_iff] at found
  obtain ⟨place, stands, fills⟩ := exists_place among found
  obtain ⟨getter, foundGetter, gets⟩ := exists_getter place stands
  have resolved : (Resolver.standard.getter type.descriptor property).2 = .ok getter := by
    rw [Resolver.standard, Resolver.getter_ofStrategies, foundGetter]
    rfl
  refine ⟨place, getter, stands, resolved, gets, fun state value => ?_⟩
  rcases fills state value with
    ⟨held, content, accepted, encoded, done⟩ | ⟨refused, error, failed⟩
  · have takes := Trait.takes_iff.2 ⟨held, content, accepted, encoded, rfl⟩
    rw [done]
    refine ⟨iff_of_true rfl ⟨_, takes⟩, fun _ failed => ?_,
      fun _ => ⟨⟨_, takes, ?_⟩, fun other different => ?_⟩⟩
    · cases failed
    · exact (gets _).trans
        (congrArg (fun content => Except.ok (Trait.toValue place.key content)) (place.keeps ..))
    · exact (Layout.Place.apart different).first_replace state content
  · rw [failed]
    refine ⟨iff_of_false ?_ ?_, fun _ _ => rfl, ?_⟩
    · intro succeeded
      cases succeeded
    · rintro ⟨converted, takes⟩
      obtain ⟨held, content, accepted, encoded, -⟩ := Trait.takes_iff.1 takes
      rw [refused held accepted] at encoded
      cases encoded
    · intro succeeded
      cases succeeded

/-- An employee's gender is set by its name in any case; what names none is refused. -/
theorem StaffType.set_trait_gender :
    ∃ (setter : Setter Staff) (place : Staff.layout.Place .employee),
      ((Resolver.ofStrategies [Strategy.methods]).setter employee.descriptor "gender").2 =
        .ok setter ∧
      ∀ person : Employee,
        (setter.set ⟨.employee, person⟩ (.string "none")).1 = person ∧
        (setter.set ⟨.employee, person⟩ (.string "Female")).2 = .ok () ∧
        ∀ other : Staff.layout.Place .employee, other ≠ place →
          other.slot.project (setter.set ⟨.employee, person⟩ (.string "Female")).1 =
            other.slot.project person := by
  have found : ((Resolver.ofStrategies [Strategy.methods]).setter employee.descriptor "gender").2 =
    .ok _ := rfl
  obtain ⟨place, _, -, -, -, atomic⟩ := set_trait List.mem_cons_self found
  refine ⟨_, place, found, fun person => ⟨?_, rfl, ?_⟩⟩
  · exact (atomic person (.string "none")).2.1 _ rfl
  · exact ((atomic person (.string "Female")).2.2 rfl).2

end Sift
