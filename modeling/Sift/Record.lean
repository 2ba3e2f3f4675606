import Sift.Reflection.Descriptor

/-!
# Records

A record is an object whose type is itself a value: a list of classes, each extending the next one.
It has a layer of slots for every class, so the part of it that a superclass describes is the
record without its first layer.  What a class declares is a list of members, each of which reads or
writes one slot of the class's own layer.

A slot holds any value, and a missing one is as good as null.  A member reads it as its type demands
and sees its initial form where the type does not accept what is there.  A layer may also hold the
messages with which methods that are able to fail do so.
-/

namespace Sift

/-! ## Layers -/

/-- The slots of one class, and the failures of the methods on them. -/
structure Layer where
  slots : List (String × Value) := []
  readFaults : List (String × String) := []
  writeFaults : List (String × String) := []

namespace Layer

/-- Store a value in a slot. -/
def store (layer : Layer) (slot : String) (value : Value) : Layer :=
  { layer with slots := (slot, value) :: layer.slots.filter fun entry => entry.1 != slot }

/-- What a slot holds. -/
def content (slot : String) (layer : Layer) : Value :=
  (layer.slots.lookup slot).getD .null

/-- What a member of a type sees in a slot. -/
def read (type : PropertyType) (initial : type.Carrier) (slot : String) (layer : Layer) :
    type.Carrier :=
  (type.ofValue? (layer.content slot)).getD initial

/-- What a member of a type sees, unless reading the slot fails. -/
def readOrFail (type : PropertyType) (initial : type.Carrier) (slot : String) (layer : Layer) :
    Except String type.Carrier :=
  match layer.readFaults.lookup slot with
  | some message => .error message
  | none => .ok (layer.read type initial slot)

/-- Store what a member of a type is given. -/
def write (type : PropertyType) (slot : String) (layer : Layer) (held : type.Carrier) : Layer :=
  layer.store slot (type.toValue held)

/-- Store what a member of a type is given, unless writing the slot fails. -/
def writeOrFail (type : PropertyType) (slot : String) (layer : Layer) (held : type.Carrier) :
    Layer × Except String Unit :=
  match layer.writeFaults.lookup slot with
  | some message => (layer, .error message)
  | none => (layer.write type slot held, .ok ())

theorem content_store (layer : Layer) (slot : String) (value : Value) :
    (layer.store slot value).content slot = value := by
  rw [content, store, List.lookup_cons_self, Option.getD_some]

/-- Storing leaves every other slot as it was. -/
theorem content_store_of_ne (layer : Layer) {slot other : String} (value : Value)
    (different : other ≠ slot) :
    (layer.store slot value).content other = layer.content other := by
  have kept : ∀ slots : List (String × Value),
      (slots.filter fun entry => entry.1 != slot).lookup other = slots.lookup other := by
    intro slots
    induction slots with
    | nil => rfl
    | cons entry rest inductionHypothesis =>
      by_cases same : entry.1 = slot
      · have passed : (other == entry.1) = false := beq_eq_false_iff_ne.mpr (same ▸ different)
        rw [List.filter_cons_of_neg (by simpa using same), inductionHypothesis, List.lookup_cons,
          passed]
      · rw [List.filter_cons_of_pos (by simpa using same), List.lookup_cons, List.lookup_cons,
          inductionHypothesis]
  rw [content, store, List.lookup_cons, beq_eq_false_iff_ne.mpr different]
  exact congrArg (fun held : Option Value => held.getD .null) (kept layer.slots)

end Layer

/-! ## Records of layers -/

/-- A record with so many superclasses. -/
def Record : Nat → Type
  | 0 => Layer
  | height + 1 => Layer × Record height

namespace Record

/-- The layer of the record's own class. -/
def layer : {height : Nat} → Record height → Layer
  | 0, layer => layer
  | _ + 1, (layer, _) => layer

/-- A record with another layer for its own class. -/
def setLayer : {height : Nat} → Record height → Layer → Record height
  | 0, _, layer => layer
  | _ + 1, (_, above), layer => (layer, above)

/-- A record of layers; missing ones have no slots. -/
def ofLayers : (height : Nat) → List Layer → Record height
  | 0, layers => layers.headD {}
  | height + 1, layers => (layers.headD {}, ofLayers height layers.tail)

/-- The layers of a record, that of its own class first. -/
def toLayers : {height : Nat} → Record height → List Layer
  | 0, layer => [layer]
  | _ + 1, (layer, above) => layer :: toLayers above

theorem layer_setLayer {height : Nat} (record : Record height) (layer : Layer) :
    (record.setLayer layer).layer = layer := by
  cases height <;> rfl

/-- Only the layer of the record's own class is replaced. -/
theorem toLayers_setLayer {height : Nat} (record : Record height) (layer : Layer) :
    (record.setLayer layer).toLayers = layer :: record.toLayers.tail := by
  cases height <;> rfl

theorem length_toLayers {height : Nat} (record : Record height) :
    record.toLayers.length = height + 1 := by
  induction height with
  | zero => rfl
  | succ height inductionHypothesis =>
    exact congrArg (· + 1) (inductionHypothesis record.2)

/-- The part of a record that its superclass describes. -/
def superclassPart (height : Nat) : Embedding (Record (height + 1)) (Record height) where
  project record := record.2
  replace record above := (record.1, above)

end Record

/-! ## Classes as values -/

/-- The sorts of members that a class of records may have. -/
inductive RecordMemberSort where
  | getter
  | hiddenGetter
  | failingGetter
  | setter
  | hiddenField
  | shownField
  | finalField
  deriving DecidableEq, Repr

/-- A member of a class of records, on a slot of the class's layer. -/
structure RecordMember where
  sort : RecordMemberSort
  name : String
  type : PropertyType
  initial : type.Carrier
  slot : String

/-- A class of records, or an interface that one implements. -/
inductive RecordClass where
  | describe (name : String) (visibility : Visibility) (members : List RecordMember)
      (interfaces : List RecordClass)

namespace RecordMember

/-- The method that a member is, if it is one. -/
def method? {height : Nat} (member : RecordMember) : Option (Method (Record height)) :=
  let read (record : Record height) := record.layer.read member.type member.initial member.slot
  match member.sort with
  | .getter => some (.getter member.name member.type read)
  | .hiddenGetter => some (.hiddenGetter member.name member.type read)
  | .failingGetter =>
    some (.failingGetter member.name member.type fun record =>
      record.layer.readOrFail member.type member.initial member.slot)
  | .setter =>
    some (.setter member.name member.type fun record held =>
      let (layer, outcome) := record.layer.writeOrFail member.type member.slot held
      (record.setLayer layer, outcome))
  | .hiddenField | .shownField | .finalField => none

/-- The field that a member is, if it is one. -/
def field? {height : Nat} (member : RecordMember) : Option (Field (Record height)) :=
  let read (record : Record height) := record.layer.read member.type member.initial member.slot
  let write (record : Record height) (held : member.type.Carrier) :=
    record.setLayer (record.layer.write member.type member.slot held)
  match member.sort with
  | .hiddenField => some (.hidden member.name member.type read write)
  | .shownField => some (.shown member.name member.type read write)
  | .finalField => some (.final member.name member.type read)
  | .getter | .hiddenGetter | .failingGetter | .setter => none

end RecordMember

namespace RecordClass

/-- What a class or an interface declares. -/
def declaration {height : Nat} (form : TypeForm) : RecordClass → Declaration (Record height)
  | describe name visibility members _ =>
    ⟨name, form, visibility, members.filterMap RecordMember.method?,
      members.filterMap RecordMember.field?⟩

mutual
/-- The descriptor of an interface for records of some height. -/
def interfaceDescriptor (height : Nat) : RecordClass → Descriptor Record height
  | describe name visibility members interfaces =>
    .base (declaration .interfaceType (describe name visibility members interfaces))
      (interfaceDescriptors height interfaces)

/-- The descriptors of interfaces. -/
def interfaceDescriptors (height : Nat) : List RecordClass → Interfaces Record height
  | [] => .nil
  | first :: rest => .cons (first.interfaceDescriptor height) (interfaceDescriptors height rest)
end

/-- The descriptors of the interfaces of a class. -/
def implemented (height : Nat) : RecordClass → Interfaces Record height
  | describe _ _ _ interfaces => interfaceDescriptors height interfaces

/-- The descriptor of a class with its superclasses. -/
def descriptor (leaf : RecordClass) : (above : List RecordClass) → Descriptor Record above.length
  | [] => .base (leaf.declaration .classType) (leaf.implemented 0)
  | next :: rest =>
    .derived (leaf.declaration .classType) (Record.superclassPart rest.length)
      (next.descriptor rest) (leaf.implemented (rest.length + 1))

end RecordClass

end Sift
