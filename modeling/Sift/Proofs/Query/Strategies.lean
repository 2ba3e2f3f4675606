import Sift.Proofs.Query.Agreement
import Sift.Proofs.Reflection.Ancestry

/-!
# Which strategy finds the staff's accessors

Every field of a person or an employee has a method of the same type for the same property, which
reads what the field holds, and no type that is searched before has a method for it.  So fields add
nothing to methods: a query is bound with the standard strategies as it is with methods alone
(`StaffType.ofTextWith_standard`), and where fields suffice methods do as well, with a query that
evaluates to the same (`StaffType.exists_agrees_standard`).  It does not matter which queries a
resolver has served before (`StaffType.ask_eq`).
-/

set_option autoImplicit false

namespace Sift

/-- The descriptors of the staff. -/
def StaffType.descriptor : (type : StaffType) → Descriptor Staff type
  | .person => Person.descriptor
  | .employee => Employee.descriptor

/-! ## Fields with methods -/

section Searching

variable {β : Type*} {start : StaffType}
  (find : (type : StaffType) → Path Staff start type → Descriptor Staff type → Option β)

theorem Person.search_eq (path : Path Staff start .person) :
    Person.descriptor.search find path = find _ path Person.descriptor := by
  rw [descriptor, Descriptor.search, Interfaces.search, Option.or_none]

/-- An employee is searched first, then the person in it and then what is named. -/
theorem Employee.search_eq (path : Path Staff start .employee) :
    Employee.descriptor.search find path =
      (find _ path Employee.descriptor).or
        ((find _ (path.superclass Employee.personPart) Person.descriptor).or
          (find _ path.interface Employee.namedInterface)) := by
  rw [descriptor, Descriptor.search, Person.search_eq, Interfaces.ofList, Interfaces.ofList,
    Interfaces.search, Interfaces.search, Option.or_none, namedInterface, Named.interface,
    Descriptor.search, Interfaces.search, Option.or_none]

end Searching

section Members

variable {start : StaffType} {property : String} {getter : Getter Staff}

/-- Every field of a person has a method. -/
theorem Person.exists_method (path : Path Staff start .person)
    (found : FieldStrategy.declaredGetter? property path Person.descriptor = some getter) :
    property ∈ ["name", "age", "firedNearRetirement"] ∧
    ∃ getter', MethodStrategy.declaredGetter? property path Person.descriptor = some getter' ∧
      getter.Agrees getter' := by
  obtain ⟨field, foundField, rfl⟩ := Option.map_eq_some_iff.1 found
  obtain ⟨member, rfl⟩ := Declaration.exists_of_field? foundField
  simp only [Person.descriptor, Descriptor.declared, Person.declaration, List.mem_cons,
    List.not_mem_nil, or_false] at member
  rcases member with rfl | rfl | rfl
  · exact ⟨by decide, _, rfl, Getter.agrees_ofMember ..⟩
  · exact ⟨by decide, _, rfl, Getter.agrees_ofMember ..⟩
  · exact ⟨by decide, _, rfl, Getter.agrees_ofMember ..⟩

/-- Every field that an employee has beyond a person has a method. -/
theorem Employee.exists_method (path : Path Staff start .employee)
    (found : FieldStrategy.declaredGetter? property path Employee.descriptor = some getter) :
    ∃ getter', MethodStrategy.declaredGetter? property path Employee.descriptor = some getter' ∧
      getter.Agrees getter' := by
  obtain ⟨field, foundField, rfl⟩ := Option.map_eq_some_iff.1 found
  obtain ⟨member, rfl⟩ := Declaration.exists_of_field? foundField
  obtain rfl := List.mem_singleton.1 member
  exact ⟨_, rfl, Getter.agrees_ofMember ..⟩

/-- An employee has no method for a property that a person has a field for. -/
theorem Employee.no_method (path : Path Staff start .employee)
    (member : property ∈ ["name", "age", "firedNearRetirement"]) :
    MethodStrategy.declaredGetter? property path Employee.descriptor = none := by
  simp only [List.mem_cons, List.not_mem_nil, or_false] at member
  rcases member with rfl | rfl | rfl <;> rfl

end Members

/-- **What fields find for the staff, methods find as well.** -/
theorem StaffType.exists_methodGetter (type : StaffType) {property : String} {getter : Getter Staff}
    (found : FieldStrategy.getter? type.descriptor property = some getter) :
    ∃ getter', MethodStrategy.getter? type.descriptor property = some getter' ∧
      getter.Agrees getter' := by
  cases type with
  | person =>
    simp only [descriptor, FieldStrategy.getter?, MethodStrategy.getter?, Person.search_eq]
      at found ⊢
    exact (Person.exists_method .here found).2
  | employee =>
    simp only [descriptor, FieldStrategy.getter?, MethodStrategy.getter?, Employee.search_eq]
      at found ⊢
    rcases Option.or_eq_some_iff.1 found with own | ⟨_, above⟩
    · obtain ⟨getter', own', agrees⟩ := Employee.exists_method .here own
      exact ⟨getter', by rw [own', Option.some_or], agrees⟩
    · rcases Option.or_eq_some_iff.1 above with inherited | ⟨_, named⟩
      · obtain ⟨member, getter', inherited', agrees⟩ := Person.exists_method _ inherited
        refine ⟨getter', ?_, agrees⟩
        rw [Employee.no_method .here member, inherited', Option.none_or, Option.some_or]
      · -- what is named has no fields
        cases named

/-- So methods cover fields. -/
theorem StaffType.methods_cover_fields (type : StaffType) :
    Strategy.Covers [Strategy.methods] [Strategy.fields] type.descriptor := by
  intro property getter found
  simp only [Strategy.findGetter, List.findSome?_singleton] at found ⊢
  exact type.exists_methodGetter found

/-- Fields add nothing to methods. -/
theorem StaffType.findGetter_standard (type : StaffType) (property : String) :
    Strategy.findGetter Strategy.standard type.descriptor property =
      Strategy.findGetter [Strategy.methods] type.descriptor property := by
  rw [Strategy.findGetter, Strategy.standard, findSome?_cons_eq_or, Strategy.findGetter,
    List.findSome?_singleton, List.findSome?_singleton]
  cases byField : Strategy.fields.getter? type.descriptor property with
  | none => exact Option.or_none
  | some getter =>
    obtain ⟨getter', byMethod, _⟩ := type.exists_methodGetter byField
    show (MethodStrategy.getter? type.descriptor property).or _ =
      MethodStrategy.getter? type.descriptor property
    rw [byMethod, Option.some_or]

theorem StaffType.findGetters_standard (type : StaffType) (names : List String) :
    Strategy.findGetters Strategy.standard type.descriptor names =
      Strategy.findGetters [Strategy.methods] type.descriptor names := by
  induction names with
  | nil => rfl
  | cons name rest ih =>
    rw [Strategy.findGetters, Strategy.findGetters, type.findGetter_standard, ih]

/-! ## Queries on the staff -/

section Queries

variable [Engine] (type : StaffType) (text : String)

theorem StaffType.ofTextWith_standard :
    BoundQuery.ofTextWith Strategy.standard type.descriptor text =
      BoundQuery.ofTextWith [Strategy.methods] type.descriptor text := by
  unfold BoundQuery.ofTextWith BoundQuery.bindWith
  simp only [type.findGetters_standard]

/-- What binds with fields alone binds with the standard strategies, and the queries agree. -/
theorem StaffType.exists_agrees_standard {query : BoundQuery Staff type}
    (bound : BoundQuery.ofTextWith [Strategy.fields] type.descriptor text = .ok query) :
    ∃ query', BoundQuery.ofTextWith Strategy.standard type.descriptor text = .ok query' ∧
      query.Agrees query' := by
  rw [type.ofTextWith_standard]
  exact BoundQuery.exists_agrees_of_covers type.methods_cover_fields bound

end Queries

/-- What the predicate of a text comes to for a type, asked of a resolver with some strategies that
has served earlier queries on the staff. -/
def StaffType.ask [Engine] (type : StaffType) (strategies : List (Strategy Staff))
    (earlier : List (StaffType × String)) (text : String) :
    Except QueryError (BoundQuery Staff type) :=
  (BoundQuery.ofText (.afterQueries strategies descriptor earlier) type.descriptor text).2

theorem StaffType.ask_eq [Engine] (type : StaffType) (strategies : List (Strategy Staff))
    (earlier : List (StaffType × String)) (text : String) :
    type.ask strategies earlier text =
      BoundQuery.ofTextWith strategies type.descriptor text :=
  (BoundQuery.ofText_eq_ofTextWith (Resolver.recalls_afterQueries earlier) type text).1

end Sift
