import Sift.Proofs.Reflection.Precedence

/-!
# What objects are made of

An object has slots of its own, and parts that are objects of other types, such as the object of the
superclass.  A layout lists them and says that they do not overlap (`Layout`).  A place is a slot at
the end of a route through parts, so the places of an object are all its slots at every level; two
places do not overlap either (`Layout.Place.apart`).

A descriptor is stored under a layout if its fields read and write one place each of the objects
that they are declared for, and if superclasses are parts of them (`Descriptor.Stored`).  A field in
the ancestry of a type then reads and writes one place of the objects of this type
(`Descriptor.Stored.exists_place`).
-/

set_option autoImplicit false

namespace Sift

/-! ## Parts and slots -/

namespace Embedding

variable {α β γ δ ε : Type}

/-- An object as a part of itself. -/
def whole : Embedding α α :=
  ⟨id, fun _ inner => inner⟩

/-- A part of a part. -/
def comp (outer : Embedding α β) (inner : Embedding β γ) : Embedding α γ where
  project object := inner.project (outer.project object)
  replace object content := outer.replace object (inner.replace (outer.project object) content)

theorem project_comp (outer : Embedding α β) (inner : Embedding β γ) (object : α) :
    (outer.comp inner).project object = inner.project (outer.project object) :=
  rfl

theorem replace_comp (outer : Embedding α β) (inner : Embedding β γ) (object : α) (content : γ) :
    (outer.comp inner).replace object content =
      outer.replace object (inner.replace (outer.project object) content) :=
  rfl

theorem comp_assoc (first : Embedding α β) (second : Embedding β γ) (third : Embedding γ δ) :
    (first.comp second).comp third = first.comp (second.comp third) :=
  rfl

/-- What is put into a part is there afterwards. -/
def Keeps (part : Embedding α β) : Prop :=
  ∀ object content, part.project (part.replace object content) = content

/-- Replacing one part leaves the other one as it was. -/
structure Apart (first : Embedding α β) (second : Embedding α γ) : Prop where
  first_replace : ∀ object content, first.project (second.replace object content) =
    first.project object
  second_replace : ∀ object content, second.project (first.replace object content) =
    second.project object

theorem keeps_whole : (whole : Embedding α α).Keeps :=
  fun _ _ => rfl

theorem Keeps.comp {outer : Embedding α β} {inner : Embedding β γ} (keepsOuter : outer.Keeps)
    (keepsInner : inner.Keeps) : (outer.comp inner).Keeps := by
  intro object content
  rw [replace_comp, project_comp, keepsOuter, keepsInner]

theorem Apart.symm {first : Embedding α β} {second : Embedding α γ} (apart : first.Apart second) :
    second.Apart first :=
  ⟨apart.second_replace, apart.first_replace⟩

/-- What is apart from a part is apart from everything in it. -/
theorem Apart.comp_right {first : Embedding α β} {second : Embedding α γ}
    (apart : first.Apart second) (inner : Embedding γ δ) : first.Apart (second.comp inner) where
  first_replace object content := apart.first_replace object _
  second_replace object content := by rw [project_comp, apart.second_replace, project_comp]

/-- What is apart in a part is apart in the whole. -/
theorem Apart.comp_left {outer : Embedding α β} {first : Embedding β γ} {second : Embedding β δ}
    (keeps : outer.Keeps) (apart : first.Apart second) :
    (outer.comp first).Apart (outer.comp second) where
  first_replace object content := by
    rw [replace_comp, project_comp, keeps, apart.first_replace, project_comp]
  second_replace object content := by
    rw [replace_comp, project_comp, keeps, apart.second_replace, project_comp]

/-- A slot serves for reading, and for writing where that is possible: what is read is what the slot
holds in some form, and what is written is put there in this form, so that it is read back with the
same value. -/
def Serves (slot : Embedding α β) (value : γ → δ) (read : α → γ) (write : Option (α → γ → α)) :
    Prop :=
  ∃ (decode : β → γ) (encode : γ → β),
    (∀ held, value (decode (encode held)) = value held) ∧
    (∀ object, read object = decode (slot.project object)) ∧
    ∀ put ∈ write, ∀ object held, put object held = slot.replace object (encode held)

/-- A slot that serves for writing serves for reading only. -/
theorem Serves.final {slot : Embedding α β} {value : γ → δ} {read : α → γ}
    {write : Option (α → γ → α)} (serves : slot.Serves value read write) :
    slot.Serves value read none := by
  obtain ⟨decode, encode, decodes, reads, -⟩ := serves
  exact ⟨decode, encode, decodes, reads, nofun⟩

/-- A slot of a part serves for what goes through the part. -/
theorem Serves.comp {slot : Embedding β γ} {value : δ → ε} {read : β → δ}
    {write : Option (β → δ → β)} (serves : slot.Serves value read write) (outer : Embedding α β) :
    (outer.comp slot).Serves value (fun object => read (outer.project object))
      (write.map fun put object held =>
        outer.replace object (put (outer.project object) held)) := by
  obtain ⟨decode, encode, decodes, reads, writes⟩ := serves
  refine ⟨decode, encode, decodes, fun object => reads _, fun put member object held => ?_⟩
  obtain ⟨inner, inside, rfl⟩ := Option.map_eq_some_iff.1 member
  exact congrArg (outer.replace object) (writes inner inside _ held)

end Embedding

/-! ## Layouts -/

variable {ι : Type}

/-- What the objects of each type are made of: slots of their own, and parts that are objects of
other types.  They keep what is put into them and do not overlap. -/
structure Layout (El : ι → Type) where
  Slot : ι → Type
  Content : {type : ι} → Slot type → Type
  slot : {type : ι} → (key : Slot type) → Embedding (El type) (Content key)
  Part : ι → ι → Type
  part : {type above : ι} → Part type above → Embedding (El type) (El above)
  slot_keeps : ∀ {type : ι} (key : Slot type), (slot key).Keeps
  part_keeps : ∀ {type above : ι} (key : Part type above), (part key).Keeps
  slot_apart_slot : ∀ {type : ι} {key key' : Slot type}, key ≠ key' → (slot key).Apart (slot key')
  slot_apart_part : ∀ {type above : ι} (key : Slot type) (key' : Part type above),
    (slot key).Apart (part key')
  part_apart_part : ∀ {type above above' : ι} {key : Part type above} {key' : Part type above'},
    (⟨above, key⟩ : Σ above, Part type above) ≠ ⟨above', key'⟩ → (part key).Apart (part key')

variable {El : ι → Type} {layout : Layout El}

namespace Layout

/-- A way through parts of parts. -/
inductive Route (layout : Layout El) : ι → ι → Type where
  | here {type : ι} : layout.Route type type
  | into {type above inner : ι} (part : layout.Part type above) (rest : layout.Route above inner) :
      layout.Route type inner

namespace Route

/-- The part at the end of a route. -/
def part : {type inner : ι} → layout.Route type inner → Embedding (El type) (El inner)
  | _, _, here => .whole
  | _, _, into key rest => (layout.part key).comp rest.part

/-- One route and then another one. -/
def append : {type middle inner : ι} → layout.Route type middle → layout.Route middle inner →
    layout.Route type inner
  | _, _, _, here, last => last
  | _, _, _, into key rest, last => into key (rest.append last)

theorem part_append {type middle inner : ι} (first : layout.Route type middle)
    (last : layout.Route middle inner) : (first.append last).part = first.part.comp last.part := by
  induction first with
  | here => rfl
  | into key rest ih => rw [append, part, part, ih, Embedding.comp_assoc]

theorem keeps {type inner : ι} (route : layout.Route type inner) : route.part.Keeps := by
  induction route with
  | here => exact Embedding.keeps_whole
  | into key rest ih => exact (layout.part_keeps key).comp ih

end Route

/-- A slot of an object or of one of the parts in it. -/
structure Place (layout : Layout El) (type : ι) where
  inner : ι
  route : layout.Route type inner
  key : layout.Slot inner

namespace Place

variable {type : ι}

/-- The slot at a place. -/
def slot (place : layout.Place type) : Embedding (El type) (layout.Content place.key) :=
  place.route.part.comp (layout.slot place.key)

theorem keeps (place : layout.Place type) : place.slot.Keeps :=
  place.route.keeps.comp (layout.slot_keeps place.key)

/-- A place in a part is a place in the whole. -/
def inside {middle : ι} (route : layout.Route type middle) (place : layout.Place middle) :
    layout.Place type :=
  ⟨place.inner, route.append place.route, place.key⟩

theorem slot_inside {middle : ι} (route : layout.Route type middle) (place : layout.Place middle) :
    (place.inside route).slot = route.part.comp place.slot := by
  show ((route.append place.route).part).comp (layout.slot place.key) = _
  rw [Route.part_append, Embedding.comp_assoc, slot]

/-- **Different places do not overlap.** -/
theorem apart {first second : layout.Place type} (different : first ≠ second) :
    first.slot.Apart second.slot := by
  obtain ⟨inner, route, key⟩ := first
  obtain ⟨inner', route', key'⟩ := second
  induction route with
  | here =>
    cases route' with
    | here => exact layout.slot_apart_slot fun same => different (congrArg (Place.mk _ .here) same)
    | into part' rest' =>
      exact (layout.slot_apart_part key part').comp_right (slot ⟨_, rest', key'⟩)
  | @into type above inner part rest ih =>
    cases route' with
    | here => exact ((layout.slot_apart_part key' part).comp_right (slot ⟨_, rest, key⟩)).symm
    | @into _ above' _ part' rest' =>
      by_cases same : (⟨above, part⟩ : Σ above, layout.Part type above) = ⟨above', part'⟩
      · -- the routes enter the same part, so they differ further on
        cases same
        refine (ih key rest' fun same => different ?_).comp_left (layout.part_keeps part)
        cases same
        rfl
      · have apart := (layout.part_apart_part same).comp_right (slot ⟨_, rest', key'⟩)
        exact (apart.symm.comp_right (slot ⟨_, rest, key⟩)).symm

end Place

end Layout

/-! ## Stored descriptors -/

/-- A path as a part of the objects that it starts from. -/
def Path.part {start type : ι} (path : Path El start type) : Embedding (El start) (El type) :=
  ⟨path.project, path.replace⟩

/-- The fields of a declaration read and write one place each. -/
def Declaration.Stored (layout : Layout El) {type : ι} (declared : Declaration (El type)) : Prop :=
  ∀ field ∈ declared.fields, ∃ place : layout.Place type,
    place.slot.Serves field.type.toValue field.read field.write

mutual
/-- All fields in the ancestry of a type read and write one place each of the objects that they are
declared for, and superclasses are parts of the objects below. -/
def Descriptor.Stored (layout : Layout El) : {type : ι} → Descriptor El type → Prop
  | _, .base declared interfaces => declared.Stored layout ∧ interfaces.Stored layout
  | _, .derived declared part superclass interfaces =>
    declared.Stored layout ∧ (∃ route : layout.Route _ _, route.part = part) ∧
      superclass.Stored layout ∧ interfaces.Stored layout

/-- The same for all interfaces. -/
def Interfaces.Stored (layout : Layout El) : {type : ι} → Interfaces El type → Prop
  | _, .nil => True
  | _, .cons first rest => first.Stored layout ∧ rest.Stored layout
end

theorem Interfaces.Stored.getElem? {type : ι} {interfaces : Interfaces El type}
    (stored : interfaces.Stored layout) {index : Nat} {interface : Descriptor El type}
    (found : interfaces.toList[index]? = some interface) : interface.Stored layout := by
  induction index generalizing interfaces with
  | zero =>
    cases interfaces with
    | nil => cases found
    | cons first rest =>
      obtain rfl := Option.some.inj found
      exact stored.1
  | succ index ih =>
    cases interfaces with
    | nil => cases found
    | cons first rest => exact ih stored.2 found

theorem Descriptor.Stored.declared {type : ι} {descriptor : Descriptor El type}
    (stored : descriptor.Stored layout) : descriptor.declared.Stored layout := by
  cases descriptor with
  | base declared interfaces => exact stored.1
  | derived declared part superclass interfaces => exact stored.1

theorem Descriptor.Stored.interfaces {type : ι} {descriptor : Descriptor El type}
    (stored : descriptor.Stored layout) : descriptor.interfaces.Stored layout := by
  cases descriptor with
  | base declared interfaces => exact stored.2
  | derived declared part superclass interfaces => exact stored.2.2.2

/-- **What is reached from a stored type is stored, and the path to it is a route.** -/
theorem Descriptor.Reaches.stored {start : ι} {bottom : Descriptor El start} {position : Position}
    {ancestor : Ancestor El start} (reaches : bottom.Reaches position ancestor)
    (stored : bottom.Stored layout) :
    ancestor.descriptor.Stored layout ∧
      ∃ route : layout.Route start ancestor.type, route.part = ancestor.path.part := by
  induction reaches with
  | self => exact ⟨stored, .here, rfl⟩
  | superclass below ih =>
    obtain ⟨⟨-, ⟨last, isPart⟩, storedAbove, -⟩, route, same⟩ := ih
    refine ⟨storedAbove, route.append last, ?_⟩
    rw [Layout.Route.part_append, same, isPart]
    rfl
  | interface below implemented ih =>
    obtain ⟨storedBelow, route, same⟩ := ih
    exact ⟨storedBelow.interfaces.getElem? implemented, route, same⟩

/-- **A field in the ancestry of a stored type reads and writes one place of its objects.** -/
theorem Descriptor.Stored.exists_place {start : ι} {bottom : Descriptor El start}
    (stored : bottom.Stored layout) {field : Occurrence Field El start}
    (declares : bottom.Declares Declaration.fields field) :
    ∃ place : layout.Place start, place.slot.Serves field.member.type.toValue
      (fun object => field.member.read (field.ancestor.path.project object))
      (field.member.write.map fun write object held =>
        field.ancestor.path.replace object (write (field.ancestor.path.project object) held)) := by
  obtain ⟨reaches, declared⟩ := declares
  obtain ⟨storedAbove, route, same⟩ := reaches.stored stored
  obtain ⟨place, serves⟩ := storedAbove.declared _ (List.mem_of_getElem? declared)
  refine ⟨place.inside route, ?_⟩
  rw [Layout.Place.slot_inside, same]
  exact serves.comp field.ancestor.path.part

end Sift
