import Sift.Proofs.Failure
import Sift.Proofs.Reflection.Ancestry
import Sift.Proofs.Reflection.Memory

/-!
# What a resolved getter reads

The member that stands for a property of a type is the first method in its ancestry that reads the
property, or else the first field of this name (`Descriptor.reader?`).  A resolved getter reads what
this member reads from the part of an object that the declaring type describes, and it reads it from
the objects of the type only (`Session.getter_reads`).

Two arguments meet here.  One is about the search: whatever is found at the end of a path reads
through the view from there (`Getter.reads_ofMember`), and the search hits where the ancestry has
its first hit (`Strategy.findGetter_reads`).  The other is about what a resolver remembers, since
the getter may come from an earlier request: every getter in memory was found for a descriptor of
its key (`Session.Sourced`), which a step keeps and so does a run.
-/

set_option autoImplicit false

namespace Sift

variable {ι : Type} {El : ι → Type}

/-! ## Readers -/

/-- A member that reads a property. -/
structure Reader (α : Type) where
  name : String
  sort : MemberSort
  reading : Reading α

/-- A method, if it reads a property. -/
def Method.reader? {α : Type} (property : String) (method : Method α) : Option (Reader α) :=
  match method.reading? with
  | some reading =>
    if readsProperty method.name property then some ⟨method.name, .method, reading⟩ else none
  | none => none

namespace Declaration

variable {α : Type}

/-- The first method that reads a property. -/
def methodReader? (declared : Declaration α) (property : String) : Option (Reader α) :=
  declared.methods.findSome? (Method.reader? property)

/-- The first field of the name of a property. -/
def fieldReader? (declared : Declaration α) (property : String) : Option (Reader α) :=
  (declared.field? property).map fun field => ⟨field.name, .field, field.reading⟩

end Declaration

/-- A member of a type in the ancestry of another. -/
structure Found (El : ι → Type) (start : ι) where
  view : View El start
  reader : Reader (El view.type)

namespace View

variable {start : ι}

/-- The method of a type in an ancestry that reads a property. -/
def method? (property : String) (view : View El start) : Option (Found El start) :=
  (view.descriptor.declared.methodReader? property).map (⟨view, ·⟩)

/-- The field of a type in an ancestry that reads a property. -/
def field? (property : String) (view : View El start) : Option (Found El start) :=
  (view.descriptor.declared.fieldReader? property).map (⟨view, ·⟩)

end View

variable [DecidableEq ι] {type : ι}

/-- The member that stands for a property: the first method in the ancestry that reads it, or else
the first field. -/
def Descriptor.reader? (descriptor : Descriptor El type) (property : String) :
    Option (Found El type) :=
  (descriptor.views.findSome? (View.method? property)).or
    (descriptor.views.findSome? (View.field? property))

/-- The member belongs to a type in the ancestry. -/
theorem Descriptor.view_mem_of_reader? (descriptor : Descriptor El type) {property : String}
    {member : Found El type} (stands : descriptor.reader? property = some member) :
    member.view ∈ descriptor.views := by
  rcases Option.or_eq_some_iff.1 stands with found | ⟨-, found⟩
  all_goals
    obtain ⟨view, inside, offers⟩ := List.exists_of_findSome?_eq_some found
    obtain ⟨reader, -, rfl⟩ := Option.map_eq_some_iff.1 offers
    exact inside

/-- Walk through the ancestry of a type for the steps to the member that stands for a property. -/
def Descriptor.walkToReader (descriptor : Descriptor El type) (property : String) :
    StateM (List (Upcast El)) (Option (List (Upcast El))) :=
  firstHit
    (descriptor.walk fun upcasts _ ancestor =>
      (ancestor.declared.methodReader? property).map fun _ => upcasts)
    (descriptor.walk fun upcasts _ ancestor =>
      (ancestor.declared.fieldReader? property).map fun _ => upcasts)

/-- The walk takes the steps that are listed for the member and takes them back. -/
theorem Descriptor.walkToReader_run (descriptor : Descriptor El type) (property : String) :
    (descriptor.walkToReader property).run [] =
      ((descriptor.reader? property).map fun found => found.view.upcasts, []) := by
  rw [walkToReader, run_firstHit (Descriptor.walk_run ..) (Descriptor.walk_run ..), reader?,
    Option.map_or, List.map_findSome?, List.map_findSome?]
  simp only [Function.comp_def, View.method?, View.field?, Option.map_map, List.nil_append]

/-! ## Reading through a view -/

/-- A getter reads the part of an object of its type. -/
theorem Getter.get_self (getter : Getter El) (accessible : getter.isAccessible = true)
    (state : El getter.bound) :
    getter.get ⟨getter.bound, state⟩ =
      (getter.reading.value (getter.path.project state)).mapError fun message =>
        getter.error (.getterFailed message) := by
  rw [get, if_pos accessible, dif_pos rfl]

/-- A getter refuses other objects. -/
theorem Getter.get_other (getter : Getter El) (accessible : getter.isAccessible = true)
    {object : Object El} (other : object.type ≠ getter.bound) :
    getter.get object = .error (getter.error .argumentMismatch) := by
  rw [get, if_pos accessible, dif_neg other]

/-- How a getter reads a member that was found in the ancestry of a type. -/
structure Getter.Reads (getter : Getter El) (property : String) (found : Found El type) :
    Prop where
  declaringType : getter.declaringType = found.view.descriptor.name
  memberName : getter.memberName = found.reader.name
  memberSort : getter.memberSort = found.reader.sort
  upcasts : getter.path.upcasts = found.view.upcasts
  get_self : ∀ state, getter.get ⟨type, state⟩ =
    (found.reader.reading.value (found.view.part state)).mapError fun message =>
      ⟨found.view.descriptor.name, property, .getterFailed message⟩
  get_other : ∀ object, object.type ≠ type →
    getter.get object = .error ⟨found.view.descriptor.name, property, .argumentMismatch⟩

/-- A getter for a member at the end of a path reads it through the view from there. -/
theorem Getter.reads_ofMember {start : ι} (path : Path El start type)
    (descriptor : Descriptor El type) (property name : String) (sort : MemberSort)
    (visibility : Visibility) (reading : Reading (El type)) :
    Getter.Reads ⟨.ofMember path descriptor.declared property name sort visibility, reading⟩
      property (⟨path.view descriptor, ⟨name, sort, reading⟩⟩ : Found El start) where
  declaringType := rfl
  memberName := rfl
  memberSort := rfl
  upcasts := rfl
  get_self := Getter.get_self ⟨.ofMember path descriptor.declared property name sort visibility,
    reading⟩ (Bool.or_true _)
  get_other _ := Getter.get_other ⟨.ofMember path descriptor.declared property name sort visibility,
    reading⟩ (Bool.or_true _)

section Finding

variable (descriptor : Descriptor El type) (property : String)

/-- A search that agrees with a view finds the first member in the ancestry. -/
theorem Descriptor.search_reads
    {find : (inner : ι) → Path El type inner → Descriptor El inner → Option (Getter El)}
    {look : View El type → Option (Found El type)}
    (agree : ∀ inner path descriptor,
      Option.Rel (Getter.Reads · property ·) (find inner path descriptor)
        (look (path.view descriptor))) :
    Option.Rel (Getter.Reads · property ·) (descriptor.search find .here)
      (descriptor.views.findSome? look) := by
  have found := descriptor.search_rel agree .here
  rwa [View.through_here, List.map_id] at found

theorem MethodStrategy.getter?_reads :
    Option.Rel (Getter.Reads · property ·) (getter? descriptor property)
      (descriptor.views.findSome? (View.method? property)) := by
  refine descriptor.search_reads property fun inner path descriptor => ?_
  rw [declaredGetter?, View.method?, Declaration.methodReader?, List.map_findSome?]
  refine rel_findSome? (fun method => ?_) _
  show Option.Rel _ _ ((method.reader? property).map _)
  rw [Method.reader?]
  cases method.reading? with
  | none => exact .none
  | some reading =>
    cases readsProperty method.name property with
    | true => exact .some (Getter.reads_ofMember ..)
    | false => exact .none

theorem FieldStrategy.getter?_reads :
    Option.Rel (Getter.Reads · property ·) (getter? descriptor property)
      (descriptor.views.findSome? (View.field? property)) := by
  refine descriptor.search_reads property fun inner path descriptor => ?_
  rw [declaredGetter?, View.field?, Declaration.fieldReader?]
  show Option.Rel _ _ (((descriptor.declared.field? property).map _).map _)
  cases descriptor.declared.field? property with
  | none => exact .none
  | some field => exact .some (Getter.reads_ofMember ..)

/-- **The standard strategies find the member that stands for a property.** -/
theorem Strategy.findGetter_reads :
    Option.Rel (Getter.Reads · property ·)
      (Strategy.findGetter Strategy.standard descriptor property)
      (descriptor.reader? property) := by
  rw [findGetter, standard, findSome?_cons_eq_or, List.findSome?_singleton]
  exact rel_or (MethodStrategy.getter?_reads descriptor property)
    (FieldStrategy.getter?_reads descriptor property)

end Finding

/-! ## Reading step by step -/

/-- Read the property of an object, going to the part step by step. -/
def Getter.replay (getter : Getter El) (upcasts : List (Upcast El)) (object : Object El) :
    Except AccessError Value :=
  if getter.isAccessible then
    match (object.follow upcasts).bind fun part => part.as? getter.part with
    | some state =>
      (getter.reading.value state).mapError fun message => getter.error (.getterFailed message)
    | none => .error (getter.error .argumentMismatch)
  else .error (getter.error .illegalAccess)

/-- **A getter goes the steps of its path.** -/
theorem Getter.get_eq_replay (getter : Getter El) (object : Object El) :
    getter.get object = getter.replay getter.path.upcasts object := by
  rw [get, replay, Path.follow_upcasts, Object.as?]
  split_ifs <;> rfl

/-! ## What a resolver remembers -/

/-- What a memory holds, and what it answers, was in it before or is found now. -/
theorem consult_provides {κ β : Type*} [DecidableEq κ] {provides : κ → β → Prop}
    {memory : List (κ × β)} {key : κ} {found : Option β}
    (kept : ∀ entry ∈ memory, provides entry.1 entry.2)
    (now : ∀ value, found = some value → provides key value) :
    (∀ value, (consult memory key found).2 = some value → provides key value) ∧
      ∀ entry ∈ (consult memory key found).1, provides entry.1 entry.2 := by
  unfold consult
  cases hit : memory.lookup key with
  | some value =>
    refine ⟨?_, kept⟩
    rintro _ ⟨⟩
    exact kept _ (mem_of_lookup hit)
  | none =>
    refine ⟨now, ?_⟩
    cases found with
    | none => exact kept
    | some value => exact List.forall_mem_cons.2 ⟨now value rfl, kept⟩

namespace Session

variable {strategies : List (Strategy El)}

/-- Whether a getter is found for a request of a key. -/
def Provides (strategies : List (Strategy El)) (asked : List (Request El)) (key : ResolverKey ι)
    (getter : Getter El) : Prop :=
  ∃ (type : ι) (descriptor : Descriptor El type) (property : String),
    .getter descriptor property ∈ asked ∧ descriptor.key property = key ∧
      Strategy.findGetter strategies descriptor property = some getter

/-- Every getter that a session remembers was found for a request of its key. -/
structure Sourced (strategies : List (Strategy El)) (asked : List (Request El))
    (session : Session El) : Prop where
  searches : session.resolver.strategies = strategies
  getters : ∀ entry ∈ session.resolver.getters, Provides strategies asked entry.1 entry.2

/-- A sourced session answers with a getter that was found for a request of the key. -/
theorem Sourced.consult {asked : List (Request El)} {session : Session El}
    (sourced : session.Sourced strategies asked) {descriptor : Descriptor El type}
    {property : String} (member : .getter descriptor property ∈ asked) :
    let consulted := Sift.consult session.resolver.getters (descriptor.key property)
      (Strategy.findGetter session.resolver.strategies descriptor property)
    (∀ getter, consulted.2 = some getter →
        Provides strategies asked (descriptor.key property) getter) ∧
      ∀ entry ∈ consulted.1, Provides strategies asked entry.1 entry.2 :=
  consult_provides sourced.getters fun _ found =>
    ⟨type, descriptor, property, member, rfl, sourced.searches ▸ found⟩

/-- **One request keeps a session sourced.** -/
theorem Sourced.step {asked : List (Request El)} {session : Session El}
    (sourced : session.Sourced strategies asked) {request : Request El}
    (member : request ∈ asked) : (session.step request).Sourced strategies asked := by
  cases request with
  | getter descriptor property =>
    simp only [Session.step, Resolver.getter_eq]
    exact ⟨sourced.searches, (sourced.consult member).2⟩
  | setter descriptor property =>
    simp only [Session.step, Resolver.setter_eq]
    exact ⟨sourced.searches, sourced.getters⟩
  | clear => exact ⟨sourced.searches, List.forall_mem_nil _⟩
  | allowGetter position allowed => exact ⟨sourced.searches, sourced.getters⟩
  | allowSetter position allowed => exact ⟨sourced.searches, sourced.getters⟩

theorem sourced_after {asked requests : List (Request El)} (among : requests ⊆ asked) :
    (after strategies requests).Sourced strategies asked :=
  after_induction ⟨rfl, List.forall_mem_nil _⟩ (fun _ _ member sourced => sourced.step member) among

/-- A getter that a resolver answers with was found for some descriptor of the same type, form and
name, which is the one asked about if the client never asks about two such descriptors. -/
theorem source_of_getter {requests : List (Request El)} {descriptor : Descriptor El type}
    {property : String} {getter : Getter El}
    (found : ((after strategies requests).resolver.getter descriptor property).2 = .ok getter) :
    ∃ source : Descriptor El type, source.key property = descriptor.key property ∧
      (Coherent (requests ++ [.getter descriptor property]) → source = descriptor) ∧
      Strategy.findGetter strategies source property = some getter := by
  let asked : List (Request El) := requests ++ [.getter descriptor property]
  have last : .getter descriptor property ∈ asked := List.mem_concat_self
  have sourced : (after strategies requests).Sourced strategies asked :=
    sourced_after (List.subset_append_left ..)
  rw [Resolver.getter_eq, Descriptor.answer_eq_ok_iff] at found
  obtain ⟨type', source, property', member, same, hit⟩ := (sourced.consult last).1 getter found
  obtain ⟨rfl, -, -, rfl⟩ := ResolverKey.mk.inj same
  refine ⟨source, same, fun coherent => ?_, hit⟩
  obtain ⟨sameDescriptor, -⟩ := coherent.eq_of_key member last rfl rfl same
  exact eq_of_heq (Sigma.mk.inj sameDescriptor).2

/-- A resolver of any past finds what its strategies find. -/
theorem exists_getter_of_findGetter {requests : List (Request El)} {descriptor : Descriptor El type}
    {property : String} {getter : Getter El}
    (hit : Strategy.findGetter strategies descriptor property = some getter) :
    ∃ getter, ((after strategies requests).resolver.getter descriptor property).2 =
      .ok getter := by
  have searches : (after strategies requests).resolver.strategies = strategies :=
    (sourced_after (List.Subset.refl requests)).searches
  simp only [Resolver.getter_eq, consult, searches, hit]
  cases (after strategies requests).resolver.getters.lookup (descriptor.key property) with
  | some earlier => exact ⟨earlier, rfl⟩
  | none => exact ⟨getter, rfl⟩

/-- **A resolved getter reads the part of an object that the declaring type describes.**  A resolver
finds a getter for every property that some member stands for.  The getter is one for a descriptor
of the type that was asked about, and for that descriptor itself unless the client also asked about
another one of the same form and name.  In its ancestry the getter stands for a member, and what it
reads from any object of the type is what this member reads from the declaring type's part of the
object; it refuses every other object in the name of the declaring type.  The same is read step by
step, in the steps that a walk to the member has taken. -/
theorem getter_reads (requests : List (Request El)) (descriptor : Descriptor El type)
    (property : String) :
    (∀ member, descriptor.reader? property = some member → ∃ getter,
      ((after Strategy.standard requests).resolver.getter descriptor property).2 = .ok getter) ∧
    ∀ getter : Getter El,
      ((after Strategy.standard requests).resolver.getter descriptor property).2 = .ok getter →
      ∃ (source : Descriptor El type) (member : Found El type),
        source.key property = descriptor.key property ∧
        (Coherent (requests ++ [.getter descriptor property]) → source = descriptor) ∧
        source.reader? property = some member ∧ member.view ∈ source.views ∧
        getter.declaringType = member.view.descriptor.name ∧
        getter.memberName = member.reader.name ∧ getter.memberSort = member.reader.sort ∧
        (∀ state : El type, getter.get ⟨type, state⟩ =
          match member.reader.reading.run (member.view.part state) with
          | .ok held => .ok (member.reader.reading.type.toValue held)
          | .error message =>
            .error ⟨member.view.descriptor.name, property, .getterFailed message⟩) ∧
        (∀ (state : El type) (error : AccessError), getter.get ⟨type, state⟩ = .error error →
          error.fault ≠ .argumentMismatch) ∧
        (∀ object : Object El, object.type ≠ type → getter.get object =
          .error ⟨member.view.descriptor.name, property, .argumentMismatch⟩) ∧
        (source.walkToReader property).run [] = (some member.view.upcasts, []) ∧
        ∀ object : Object El, getter.get object = getter.replay member.view.upcasts object := by
  constructor
  · intro member stands
    have finds := Strategy.findGetter_reads descriptor property
    rw [stands] at finds
    generalize hit : Strategy.findGetter Strategy.standard descriptor property = found at finds
    cases finds with
    | some reads => exact exists_getter_of_findGetter hit
  · intro getter found
    obtain ⟨source, same, only, hit⟩ := source_of_getter found
    have finds := Strategy.findGetter_reads source property
    rw [hit] at finds
    generalize stands : source.reader? property = reader at finds
    cases finds with
    | @some _ member reads =>
      refine ⟨source, member, same, only, stands, source.view_mem_of_reader? stands,
        reads.declaringType, reads.memberName, reads.memberSort, fun state => ?_,
        fun state error failed => ?_, reads.get_other, ?_, ?_⟩
      · rw [reads.get_self, Reading.value]
        cases member.reader.reading.run (member.view.part state) with
        | ok held => rfl
        | error message => rfl
      · rw [reads.get_self, mapError_eq_error_iff] at failed
        obtain ⟨message, -, rfl⟩ := failed
        exact nofun
      · rw [source.walkToReader_run property, stands]
        rfl
      · rw [← reads.upcasts]
        exact getter.get_eq_replay

/-- The age of an employee is read from the person in it, also after a person's age was read. -/
theorem getter_reads_employee :
    ∃ getter : Getter Staff,
      ((after Strategy.standard [.getter Person.descriptor "age"]).resolver.getter
        Employee.descriptor "age").2 = .ok getter ∧
      getter.get ⟨StaffType.employee, ({ person := { age := 21 } } : Employee)⟩ =
        .ok (.integer 21) ∧
      getter.get ⟨StaffType.person, ({ age := 21 } : Person)⟩ =
        .error ⟨"Person", "age", .argumentMismatch⟩ := by
  have person : Employee.descriptor.reader? "age" = some ⟨⟨.person, Person.descriptor,
      fun employee => employee.person, [Employee.personPart.upcast]⟩,
      ⟨"getAge", .method, ⟨.required .int32, fun person => .ok person.age⟩⟩⟩ := rfl
  obtain ⟨finds, every⟩ :=
    getter_reads [.getter Person.descriptor "age"] Employee.descriptor "age"
  obtain ⟨getter, found⟩ := finds _ person
  obtain ⟨source, member, -, same, stands, -, -, -, -, reads, -, refuses, -⟩ := every getter found
  let requests : List (Request Staff) :=
    [.getter Person.descriptor "age", .getter Employee.descriptor "age"]
  have coherent : Coherent requests := by
    have about : requests.filterMap Request.descriptor? =
        [⟨.person, Person.descriptor⟩, ⟨.employee, Employee.descriptor⟩] := rfl
    rw [Coherent, about]
    simp
  obtain rfl := same coherent
  obtain rfl := Option.some.inj (stands.symm.trans person)
  exact ⟨getter, found, reads _, refuses _ (by decide)⟩

end Session

end Sift
