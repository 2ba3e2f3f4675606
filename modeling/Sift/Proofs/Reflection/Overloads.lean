import Sift.Proofs.Reflection.Setters

/-!
# Which of several methods writes a property

A type may declare several methods that are named for writing a property, with parameters of
different kinds, among others that have nothing to do with it.  `MethodStrategy.choose` takes the
first of them that has the kind of what reads the property, which may be declared far above, or else
the last one; without anything that reads the property the first one will do.

The choice is what a loop over all declared methods comes to, which remembers a candidate, replaces
it by every later one, and stops at one that is as expected (`MethodStrategy.scan`).  Both are the
same because either settles on the first method at hand or goes on with the others
(`MethodStrategy.choose_cons`).
-/

set_option autoImplicit false

namespace Sift

/-! ## Methods that are named alike -/

instance (word name property : String) : Decidable (Names word name property) :=
  decidable_of_iff _ methodMatches_iff

/-- A method with one parameter that is named for writing a property. -/
def Method.IsOverload {α : Type} (property : String) (method : Method α) : Prop :=
  method.parameterCount = 1 ∧ Names "set" method.name property

instance {α : Type} (property : String) (method : Method α) :
    Decidable (method.IsOverload property) :=
  inferInstanceAs (Decidable (_ ∧ _))

/-- The methods of a type that write a property, in the order in which they are declared. -/
def Declaration.overloads {α : Type} (declared : Declaration α) (property : String) :
    List (Method α) :=
  declared.methods.filter fun method => method.IsOverload property

variable {ι : Type} {El : ι → Type} {start type : ι} {property : String}
  {path : Path El start type} {descriptor : Descriptor El type}

/-- An overload is a method that makes a setter. -/
theorem Method.isOverload_iff {method : Method (El type)} :
    method.IsOverload property ↔
      ∃ setter, method.setter? property path descriptor = some setter := by
  simp only [Method.setter?_eq_some_iff, exists_and_left]
  obtain ⟨name, visibility, body⟩ := method
  cases body with
  | read reading =>
    constructor
    · exact nofun
    · rintro ⟨_, _, _, same, -⟩
      cases same
  | write writing =>
    constructor
    · rintro ⟨-, named⟩
      exact ⟨named, _, writing, rfl, rfl⟩
    · rintro ⟨named, -⟩
      exact ⟨rfl, named⟩

/-- **The setters of a type are what its overloads become, in their order.** -/
theorem MethodStrategy.forall₂_declaredSetters :
    List.Forall₂ (Method.Becomes property path descriptor)
      (descriptor.declared.overloads property) (declaredSetters property path descriptor) := by
  change List.Forall₂ _ (descriptor.declared.methods.filter _)
    (descriptor.declared.methods.filterMap (Method.setter? property path descriptor))
  induction descriptor.declared.methods with
  | nil => exact .nil
  | cons method rest ih =>
    cases made : method.setter? property path descriptor with
    | none =>
      have other : ¬ method.IsOverload property := fun overload => by
        obtain ⟨setter, some⟩ := Method.isOverload_iff.1 overload
        cases made.symm.trans some
      rw [List.filter_cons_of_neg (by simpa using other), List.filterMap_cons_none made]
      exact ih
    | some setter =>
      have overload : method.IsOverload property := Method.isOverload_iff.2 ⟨setter, made⟩
      rw [List.filter_cons_of_pos (by simpa using overload), List.filterMap_cons_some made]
      exact .cons (Method.setter?_eq_some_iff.1 made).2 ih

/-! ## Choosing -/

namespace MethodStrategy

theorem choose_none (setters : List (Setter El)) : choose none setters = setters.head? := by
  cases setters with
  | nil => rfl
  | cons setter others => rw [choose_cons, if_pos (Or.inl rfl), List.head?_cons]

theorem choose_some (kind : Kind) (setters : List (Setter El)) :
    choose (some kind) setters =
      (setters.find? fun setter => setter.kind = kind).or setters.getLast? := by
  induction setters with
  | nil => rfl
  | cons setter others ih =>
    have last : others.getLast?.or (some setter) = (setter :: others).getLast? := by
      rw [List.getLast?_cons]
      cases others.getLast? <;> rfl
    rw [choose_cons, ih, Option.or_assoc, last, List.find?_cons]
    by_cases suits : setter.kind = kind
    · simp [suits]
    · simp [suits, Ne.symm suits]

variable (property path descriptor)

/-- Go through methods with a candidate: one that writes the property takes its place, and if it is
as expected, the search is over. -/
def scan (expected : Option Kind) : Option (Setter El) → List (Method (El type)) →
    Option (Setter El)
  | candidate, [] => candidate
  | candidate, method :: rest =>
    match method.setter? property path descriptor with
    | none => scan expected candidate rest
    | some setter =>
      if expected = none ∨ expected = some setter.kind then some setter
      else scan expected (some setter) rest

variable {property path descriptor}

/-- **Going through methods comes to the choice among the setters that they make.** -/
theorem scan_eq (expected : Option Kind) (candidate : Option (Setter El))
    (methods : List (Method (El type))) :
    scan property path descriptor expected candidate methods =
      (choose expected (methods.filterMap (Method.setter? property path descriptor))).or
        candidate := by
  induction methods generalizing candidate with
  | nil => rfl
  | cons method rest ih =>
    rw [scan]
    cases made : method.setter? property path descriptor with
    | none =>
      rw [List.filterMap_cons_none made]
      exact ih candidate
    | some setter =>
      rw [List.filterMap_cons_some made, choose_cons]
      dsimp only
      split_ifs
      · rfl
      · rw [Option.or_assoc]
        exact ih (some setter)

/-- **Which of several methods writes a property.**  The setters among which one is found are what
the overloads of a type become, in the order in which they are declared; none is found exactly if
there are no overloads.  If no method in the ancestry of the type reads the property, the first
setter is found.  Otherwise the method that reads it has a kind, and the first setter of this kind
is found, or else the last of all.  A loop over the declared methods, with a candidate that is
replaced until it is as expected, finds the same. -/
theorem declaredSetter?_overloads (property : String) (path : Path El start type)
    (descriptor : Descriptor El type) :
    ∃ setters, List.Forall₂ (Method.Becomes property path descriptor)
        (descriptor.declared.overloads property) setters ∧
      (declaredSetter? property path descriptor = none ↔
        descriptor.declared.overloads property = []) ∧
      ((∀ method, descriptor.Declares Declaration.methods method →
          ¬ ∃ reading, method.member.Reads property reading) →
        declaredSetter? property path descriptor = setters.head?) ∧
      (∀ (first : Occurrence Method El type) (reading : Reading (El first.ancestor.type)),
        descriptor.Prefers Declaration.methods
          (fun method => ∃ reading, method.member.Reads property reading) first →
        first.member.Reads property reading →
        declaredSetter? property path descriptor =
          (setters.find? fun setter => setter.kind = reading.type.kind).or setters.getLast?) ∧
      scan property path descriptor ((getter? descriptor property).map Getter.kind) none
        descriptor.declared.methods = declaredSetter? property path descriptor := by
  have made : List.Forall₂ (Method.Becomes property path descriptor)
      (descriptor.declared.overloads property) _ := forall₂_declaredSetters
  refine ⟨_, made, ?_, fun unread => ?_, fun first reading prefers reads => ?_, ?_⟩
  · rw [declaredSetter?, choose_eq_none_iff, ← List.length_eq_zero_iff, ← made.length_eq,
      List.length_eq_zero_iff]
  · rw [declaredSetter?, getter?_eq_none_iff.2 unread]
    exact choose_none _
  · rw [declaredSetter?, getter?_eq_some_iff.2 ⟨first, reading, prefers, reads, rfl⟩]
    exact choose_some _ _
  · rw [scan_eq, Option.or_none]
    rfl

end MethodStrategy

/-- A crate, whose size is read as an integer and written in three ways, among other methods. -/
def RecordClass.crate : Descriptor Record 0 :=
  (describe "Crate" .shown
    [⟨.setter, "setSize", .required .text, "", "size"⟩,
      ⟨.getter, "getSize", .required .int32, (0 : Int32), "size"⟩,
      ⟨.setter, "setLabel", .required .text, "", "label"⟩,
      ⟨.setter, "setSize", .required .int64, (0 : Int64), "size"⟩,
      ⟨.setter, "setSize", .required .float64, (0 : Float), "size"⟩] []).descriptor []

/-- The size of a crate is written as an integer, by the second of three methods; its label, which
nothing reads, by the only one. -/
theorem MethodStrategy.declaredSetter?_overloads_crate :
    (∃ (first : Occurrence Method Record 0) (reading : Reading (Record first.ancestor.type))
        (setters : List (Setter Record)),
      RecordClass.crate.Prefers Declaration.methods
        (fun method => ∃ reading, method.member.Reads "size" reading) first ∧
      first.member.Reads "size" reading ∧ reading.type.kind = .integer ∧
      List.Forall₂ (Method.Becomes "size" .here RecordClass.crate)
        (RecordClass.crate.declared.overloads "size") setters ∧
      setters.map Setter.kind = [.string, .integer, .float] ∧
      declaredSetter? "size" .here RecordClass.crate = setters[1]?) ∧
    (∀ method, RecordClass.crate.Declares Declaration.methods method →
      ¬ ∃ reading, method.member.Reads "label" reading) ∧
    ∃ setters : List (Setter Record),
      List.Forall₂ (Method.Becomes "label" .here RecordClass.crate)
        (RecordClass.crate.declared.overloads "label") setters ∧ setters.length = 1 ∧
      declaredSetter? "label" .here RecordClass.crate = setters.head? := by
  obtain ⟨getter, found, kind⟩ : ∃ getter, getter? RecordClass.crate "size" = some getter ∧
    getter.kind = .integer := ⟨_, rfl, rfl⟩
  obtain ⟨first, reading, prefers, reads, rfl⟩ := getter?_eq_some_iff.1 found
  obtain ⟨setters, made, -, -, ofKind, -⟩ :=
    declaredSetter?_overloads "size" .here RecordClass.crate
  have chosen := ofKind first reading prefers reads
  rw [show reading.type.kind = .integer from kind] at chosen
  have unread := getter?_eq_none_iff.1
    (show getter? RecordClass.crate "label" = none from rfl)
  obtain ⟨labelSetters, madeLabel, -, head, -⟩ :=
    declaredSetter?_overloads "label" .here RecordClass.crate
  refine ⟨⟨first, reading, setters, prefers, reads, kind, made, ?_⟩, unread, labelSetters,
    madeLabel, madeLabel.length_eq.symm, head unread⟩
  obtain _ | ⟨⟨_, body, rfl⟩, _ | ⟨⟨_, body', rfl⟩, _ | ⟨⟨_, body'', rfl⟩, _ | _⟩⟩⟩ := made
  cases body
  cases body'
  cases body''
  exact ⟨rfl, chosen⟩

end Sift
