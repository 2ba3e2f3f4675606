import Sift.Proofs.Reflection.Storage
import Sift.Proofs.Value.Conversion
import Sift.Record

/-!
# Records are stored

The layout of records: the slots of a record are those of its first layer, under every name, and its
only part is what its superclass describes.

A field of a class of records goes to one slot by definition, so all classes of records are stored
under this layout (`RecordClass.stored_descriptor`).  Classes may use one slot for several fields,
and names may be repeated along the superclasses.
-/

set_option autoImplicit false

namespace Sift

/-! ## Slots of a layer -/

namespace Layer

/-- A slot of a layer. -/
def slot (name : String) : Embedding Layer Value :=
  ⟨content name, fun layer => layer.store name⟩

theorem keeps_slot (name : String) : (slot name).Keeps :=
  fun layer value => layer.content_store name value

theorem slot_apart_slot {name name' : String} (different : name ≠ name') :
    (slot name).Apart (slot name') where
  first_replace layer value := layer.content_store_of_ne value different
  second_replace layer value := layer.content_store_of_ne value different.symm

end Layer

/-! ## Places of a record -/

namespace Record

variable {height : Nat}

/-- The record's own layer. -/
def ownLayer : Embedding (Record height) Layer :=
  ⟨layer, setLayer⟩

/-- A slot of the record's own layer. -/
def slot (name : String) : Embedding (Record height) Value :=
  ownLayer.comp (Layer.slot name)

theorem keeps_ownLayer : (ownLayer : Embedding (Record height) Layer).Keeps :=
  layer_setLayer

theorem ownLayer_apart_superclassPart :
    (ownLayer : Embedding (Record (height + 1)) Layer).Apart (superclassPart height) :=
  ⟨fun _ _ => rfl, fun _ _ => rfl⟩

theorem keeps_superclassPart : (superclassPart height).Keeps :=
  fun _ _ => rfl

/-- How high the record is that a superclass describes. -/
inductive Above : Nat → Nat → Type where
  | next (height : Nat) : Above (height + 1) height

/-- What a record is made of. -/
def layout : Layout Record where
  Slot _ := String
  Content _ := Value
  slot := slot
  Part := Above
  part
    | .next height => superclassPart height
  slot_keeps name := keeps_ownLayer.comp (Layer.keeps_slot name)
  part_keeps
    | .next _ => keeps_superclassPart
  slot_apart_slot different := (Layer.slot_apart_slot different).comp_left keeps_ownLayer
  slot_apart_part
    | _, .next _ => (ownLayer_apart_superclassPart.symm.comp_right _).symm
  part_apart_part := by
    rintro _ _ _ ⟨height⟩ ⟨_⟩ different
    exact absurd rfl different

/-- A slot serves for a member of any type. -/
theorem serves_slot (type : PropertyType) (initial : type.Carrier) (name : String) :
    (slot name).Serves type.toValue
      (fun record : Record height => record.layer.read type initial name)
      (some fun record held => record.setLayer (record.layer.write type name held)) := by
  refine ⟨fun value => (type.ofValue? value).getD initial, type.toValue, fun held => ?_,
    fun _ => rfl, fun put member record held => ?_⟩
  · obtain ⟨held', found, same⟩ := Option.map_eq_some_iff.1 (type.accepts_toValue held)
    show type.toValue ((type.ofValue? (type.toValue held)).getD initial) = type.toValue held
    rw [found, Option.getD_some, same]
  · obtain rfl := Option.some.inj member
    rfl

end Record

/-! ## Classes of records -/

theorem RecordMember.serves_field {height : Nat} {member : RecordMember}
    {field : Field (Record height)} (isField : member.field? = some field) :
    (Record.slot member.slot).Serves field.type.toValue field.read field.write := by
  obtain ⟨sort, name, type, initial, slot⟩ := member
  cases sort with
  | hiddenField | shownField =>
    obtain rfl := Option.some.inj isField
    exact Record.serves_slot type initial slot
  | finalField =>
    obtain rfl := Option.some.inj isField
    exact (Record.serves_slot type initial slot).final
  | _ => cases isField

namespace RecordClass

theorem stored_declaration (height : Nat) (form : TypeForm) (described : RecordClass) :
    (described.declaration form : Declaration (Record height)).Stored Record.layout := by
  obtain ⟨name, visibility, members, interfaces⟩ := described
  intro field listed
  obtain ⟨member, -, isField⟩ := List.mem_filterMap.1 listed
  exact ⟨⟨height, .here, member.slot⟩, RecordMember.serves_field isField⟩

mutual
theorem stored_interfaceDescriptor (height : Nat) : (described : RecordClass) →
    (described.interfaceDescriptor height).Stored Record.layout
  | describe _ _ _ interfaces =>
    ⟨stored_declaration _ _ _, stored_interfaceDescriptors height interfaces⟩

theorem stored_interfaceDescriptors (height : Nat) : (described : List RecordClass) →
    (interfaceDescriptors height described).Stored Record.layout
  | [] => trivial
  | first :: rest =>
    ⟨stored_interfaceDescriptor height first, stored_interfaceDescriptors height rest⟩
end

end RecordClass

end Sift
