import Sift.Proofs.Reflection.Precedence
import Sift.Proofs.Reflection.Storage
import Sift.Proofs.Value.Conversion

/-!
# What a resolved setter writes

A setter refuses what it is not for before it touches the object: another object, a final field, a
value that the type of the member does not accept.  Only then the member runs on its part of the
object, and what it makes of the part is put back.

A member fills a slot if it puts there what it makes of the value, or else fails and leaves its part
as it was (`Writing.Fills`).  A setter for such a member does the same to the whole object
(`Setter.set_of_fills`).  Whatever the strategies find for writing a property is a setter for a
member that some type in the ancestry declares for this property (`Strategy.exists_sets`).
-/

set_option autoImplicit false

namespace Sift

variable {ι : Type} {El : ι → Type}

/-! ## Setting -/

namespace Setter

section Writing

variable {setter : Setter El} {writing : Writing (El setter.part)} {state : El setter.bound}
  {value : Value}

theorem write_of_error {refusal : PropertyType.Refusal}
    (refused : writing.type.accept value = .error refusal) :
    setter.write writing state value = (state, .error (setter.error (refusalFault refusal))) := by
  rw [write, refused]

theorem write_of_ok {held : writing.type.Carrier}
    (accepted : writing.type.accept value = .ok held) :
    setter.write writing state value =
      (setter.path.replace state (writing.run (setter.path.project state) held).1,
        (writing.run (setter.path.project state) held).2.mapError fun message =>
          setter.error (.setterFailed message)) := by
  rw [write, accepted]

end Writing

variable [DecidableEq ι]

/-- A setter that is accessible writes objects of its type, unless it stands for a final field. -/
theorem set_self {setter : Setter El} {writing : Writing (El setter.part)}
    (accessible : setter.isAccessible = true) (writes : setter.writing? = some writing)
    (state : El setter.bound) (value : Value) :
    setter.set ⟨setter.bound, state⟩ value = setter.write writing state value := by
  rw [set, if_pos accessible, writes]
  exact dif_pos rfl

end Setter

/-! ## Filling a slot -/

variable {start type : ι} {β : Type}

/-- A member takes what it is given into a slot in some form, or else it fails and leaves the object
as it was. -/
def Writing.Fills {α : Type} (writing : Writing α) (slot : Embedding α β)
    (encode : writing.type.Carrier → Option β) : Prop :=
  ∀ object held,
    (∃ content, encode held = some content ∧
      writing.run object held = (slot.replace object content, .ok ())) ∨
    encode held = none ∧ ∃ message, writing.run object held = (object, .error message)

/-- A setter converts a value to a type and does the same with what is held then. -/
def Setter.Fills [DecidableEq ι] (setter : Setter El) (slot : Embedding (El start) β)
    (type : PropertyType) (encode : type.Carrier → Option β) : Prop :=
  ∀ state value,
    (∃ held content, type.accept value = .ok held ∧ encode held = some content ∧
      setter.set ⟨start, state⟩ value = (slot.replace state content, .ok ())) ∨
    (∀ held, type.accept value = .ok held → encode held = none) ∧
      ∃ error, setter.set ⟨start, state⟩ value = (state, .error error)

/-- **If a member fills a slot, then its setter fills the slot of the part that has the member.** -/
theorem Setter.fills_of_writing [DecidableEq ι] {path : Path El start type}
    (restores : ∀ state, path.replace state (path.project state) = state)
    {writing : Writing (El type)} {slot : Embedding (El type) β}
    {encode : writing.type.Carrier → Option β} (fills : writing.Fills slot encode)
    {declared : Declaration (El type)} {property name : String} {sort : MemberSort}
    {visibility : Visibility} {kind : Kind} :
    Setter.Fills ⟨.ofMember path declared property name sort visibility, kind, some writing⟩
      (path.part.comp slot) writing.type encode := by
  intro state value
  let setter : Setter El :=
    ⟨.ofMember path declared property name sort visibility, kind, some writing⟩
  have done : setter.set ⟨start, state⟩ value = setter.write writing state value :=
    setter.set_self (Bool.or_true _) rfl state value
  cases accepted : writing.type.accept value with
  | error refusal => exact Or.inr ⟨fun _ => nofun, _, done.trans (write_of_error accepted)⟩
  | ok held =>
    have written := done.trans (write_of_ok accepted)
    rcases fills (path.project state) held with
      ⟨content, encoded, put⟩ | ⟨refused, message, failed⟩
    · refine Or.inl ⟨held, content, rfl, encoded, written.trans ?_⟩
      rw [show writing.run (setter.path.project state) held = _ from put]
      rfl
    · refine Or.inr ⟨fun _ same => ?_, setter.error (.setterFailed message), written.trans ?_⟩
      · obtain rfl := Except.ok.inj same
        exact refused
      · rw [show writing.run (setter.path.project state) held = _ from failed]
        exact Prod.ext (restores state) rfl

/-! ## Finding a setter -/

/-- What a type that is reached by a path declares for writing a property: a method that is named
for this, or a field of this name. -/
inductive Declaration.Sets (declared : Declaration (El type)) (path : Path El start type)
    (property : String) : Setter El → Prop where
  | method {method : Method (El type)} {writing : Writing (El type)}
      (listed : method ∈ declared.methods) (writes : method.writing? = some writing)
      (named : Names "set" method.name property) :
      declared.Sets path property
        ⟨.ofMember path declared property method.name .method method.visibility, writing.type.kind,
          some writing⟩
  | field {field : Field (El type)} (listed : field ∈ declared.fields)
      (named : field.name = property) :
      declared.Sets path property
        ⟨.ofMember path declared property field.name .field field.visibility, field.type.kind,
          field.writing?⟩

section Making

variable (property : String) (path : Path El start type) (descriptor : Descriptor El type)

/-- The setter for a property that a method with a parameter becomes. -/
def Method.Becomes (method : Method (El type)) (setter : Setter El) : Prop :=
  ∃ writing, method.body = .write writing ∧
    setter = ⟨.ofMember path descriptor.declared property method.name .method method.visibility,
      writing.type.kind, some writing⟩

/-- The setter that a method makes, if it writes the property. -/
def Method.setter? (method : Method (El type)) : Option (Setter El) :=
  match method.writing? with
  | some writing =>
    if writesProperty method.name property then
      some ⟨.ofMember path descriptor.declared property method.name .method method.visibility,
        writing.type.kind, some writing⟩
    else none
  | none => none

variable {property path descriptor}

theorem Method.setter?_eq_some_iff {method : Method (El type)} {setter : Setter El} :
    method.setter? property path descriptor = some setter ↔
      Names "set" method.name property ∧ method.Becomes property path descriptor setter := by
  obtain ⟨name, visibility, body⟩ := method
  cases body with
  | read reading =>
    constructor
    · exact nofun
    · rintro ⟨_, _, same, -⟩
      cases same
  | write writing =>
    refine Option.ite_none_right_eq_some.trans (and_congr methodMatches_iff ⟨?_, ?_⟩)
    · intro made
      exact ⟨writing, rfl, (Option.some.inj made).symm⟩
    · rintro ⟨_, same, rfl⟩
      cases same
      rfl

end Making

/-- What a search finds is found at some type that is reached. -/
theorem Descriptor.exists_of_search {β : Type*} {bottom : Descriptor El start}
    {find : (type : ι) → Path El start type → Descriptor El type → Option β} {found : β}
    (finds : bottom.search find .here = some found) :
    ∃ position ancestor, bottom.Reaches position ancestor ∧
      find ancestor.type ancestor.path ancestor.descriptor = some found := by
  rw [bottom.search_eq_findSome? .here []] at finds
  obtain ⟨entry, listed, offers⟩ := List.exists_of_findSome?_eq_some finds
  exact ⟨entry.1, entry.2, mem_ancestry_iff.1 listed, offers⟩

namespace MethodStrategy

variable {expected : Option Kind} {setters : List (Setter El)}

/-- Among any setters one is chosen. -/
theorem choose_eq_none_iff :
    choose expected setters = none ↔ setters = [] := by
  constructor
  · intro missing
    induction setters with
    | nil => rfl
    | cons first others ih =>
      cases others with
      | nil => cases missing
      | cons second rest =>
        change (if expected.all (· == first.kind) then some first
          else choose expected (second :: rest)) = none at missing
        split at missing
        · cases missing
        · cases ih missing
  · rintro rfl
    rfl

/-- **A setter is chosen if it is as expected, and else it is kept in case that there is no
other.** -/
theorem choose_cons (expected : Option Kind) (setter : Setter El) (others : List (Setter El)) :
    choose expected (setter :: others) =
      if expected = none ∨ expected = some setter.kind then some setter
      else (choose expected others).or (some setter) := by
  have suits : expected.all (· == setter.kind) = true ↔
      expected = none ∨ expected = some setter.kind := by
    cases expected <;> simp
  cases others with
  | nil => split_ifs <;> rfl
  | cons second rest =>
    have chosen : choose expected (second :: rest) ≠ none :=
      mt choose_eq_none_iff.1 (List.cons_ne_nil second rest)
    rw [Option.or_of_isSome (Option.isSome_iff_ne_none.2 chosen)]
    exact if_congr suits rfl rfl

/-- What is chosen among setters is one of them. -/
theorem mem_of_choose {setter : Setter El} (chosen : choose expected setters = some setter) :
    setter ∈ setters := by
  induction setters with
  | nil => cases chosen
  | cons first others ih =>
    rw [choose_cons] at chosen
    split at chosen
    · obtain rfl := Option.some.inj chosen
      exact List.mem_cons_self
    · rcases Option.or_eq_some_iff.1 chosen with later | ⟨-, same⟩
      · exact List.mem_cons_of_mem _ (ih later)
      · obtain rfl := Option.some.inj same
        exact List.mem_cons_self

end MethodStrategy

section Declared

variable {path : Path El start type} {descriptor : Descriptor El type} {property : String}
  {setter : Setter El}

theorem MethodStrategy.sets_of_declaredSetter?
    (found : declaredSetter? property path descriptor = some setter) :
    descriptor.declared.Sets path property setter := by
  obtain ⟨method, listed, made⟩ := List.mem_filterMap.1 (mem_of_choose found)
  obtain ⟨named, writing, body, rfl⟩ := Method.setter?_eq_some_iff.1 made
  exact .method listed (by rw [Method.writing?, body]) named

theorem FieldStrategy.sets_of_declaredSetter?
    (found : declaredSetter? property path descriptor = some setter) :
    descriptor.declared.Sets path property setter := by
  obtain ⟨field, foundField, rfl⟩ := Option.map_eq_some_iff.1 found
  obtain ⟨listed, named⟩ := Declaration.exists_of_field? foundField
  exact .field listed named

end Declared

/-- **A setter that strategies find stands for a member of some type in the ancestry.** -/
theorem Strategy.exists_sets {strategies : List (Strategy El)} (known : strategies ⊆ standard)
    {descriptor : Descriptor El type} {property : String} {setter : Setter El}
    (found : findSetter strategies descriptor property = some setter) :
    ∃ position ancestor, descriptor.Reaches position ancestor ∧
      ancestor.descriptor.declared.Sets ancestor.path property setter := by
  obtain ⟨strategy, listed, finds⟩ := List.exists_of_findSome?_eq_some found
  rcases List.mem_cons.1 (known listed) with rfl | isField
  · obtain ⟨position, ancestor, reached, offers⟩ := Descriptor.exists_of_search finds
    exact ⟨position, ancestor, reached, MethodStrategy.sets_of_declaredSetter? offers⟩
  · obtain rfl := List.mem_singleton.1 isField
    obtain ⟨position, ancestor, reached, offers⟩ := Descriptor.exists_of_search finds
    exact ⟨position, ancestor, reached, FieldStrategy.sets_of_declaredSetter? offers⟩

end Sift
