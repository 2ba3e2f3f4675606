import Sift.Reflection.Accessor
import Sift.Text.Case

/-!
# Strategies

A strategy says which member of a type stands for a property.  One takes methods by their names,
which consist of a word for what they do and the property: `getAge` and `isAge` read what `setAge`
writes.  The other takes the field of the same name.  Both search the ancestry of a type and stop
at the first hit.
-/

namespace Sift

variable {ι : Type} {El : ι → Type}

/-- A way to find accessors for the properties of a type. -/
structure Strategy (El : ι → Type) where
  name : String
  getter? : {type : ι} → Descriptor El type → String → Option (Getter El)
  setter? : {type : ι} → Descriptor El type → String → Option (Setter El)

/-! ## Methods by their names -/

/-- Whether the rest of a method name stands for a property: as it is written or with its first
letter in the lower case. -/
def restMatches (rest property : String) : Bool :=
  !rest.isEmpty && (rest == property || Text.decapitalize rest == property)

/-- Whether a method name is a word followed by the name of a property. -/
def methodMatches (word method property : String) : Bool :=
  match word.toList.isPrefixOf? method.toList with
  | some rest => restMatches (String.ofList rest) property
  | none => false

/-- Whether a method name is that of a method that reads a property. -/
def readsProperty (method property : String) : Bool :=
  methodMatches "get" method property || methodMatches "is" method property

/-- Whether a method name is that of a method that writes a property. -/
def writesProperty (method property : String) : Bool :=
  methodMatches "set" method property

namespace MethodStrategy

variable {start type : ι}

/-- The first method of a type that reads a property. -/
def declaredGetter? (property : String) (path : Path El start type)
    (descriptor : Descriptor El type) : Option (Getter El) :=
  descriptor.declared.methods.findSome? fun method =>
    match method.reading? with
    | some reading =>
      if readsProperty method.name property then
        some ⟨.ofMember path descriptor.declared property method.name .method method.visibility,
          reading⟩
      else none
    | none => none

/-- The first method in the ancestry of a type that reads a property. -/
def getter? (descriptor : Descriptor El type) (property : String) : Option (Getter El) :=
  descriptor.search (fun _ path descriptor => declaredGetter? property path descriptor) .here

/-- The methods of a type that write a property. -/
def declaredSetters (property : String) (path : Path El start type)
    (descriptor : Descriptor El type) : List (Setter El) :=
  descriptor.declared.methods.filterMap fun method =>
    match method.writing? with
    | some writing =>
      if writesProperty method.name property then
        some ⟨.ofMember path descriptor.declared property method.name .method method.visibility,
          writing.type.kind, some writing⟩
      else none
    | none => none

/-- The choice among setters: the first one if nothing is expected of them, else the first one of
the expected kind, and the last one if there is none of that kind. -/
def choose (expected : Option Kind) : List (Setter El) → Option (Setter El)
  | [] => none
  | [setter] => some setter
  | setter :: others =>
    if expected.all (· == setter.kind) then some setter else choose expected others

/-- The method of a type that writes a property; among several, one that takes what the method that
reads the property returns. -/
def declaredSetter? (property : String) (path : Path El start type)
    (descriptor : Descriptor El type) : Option (Setter El) :=
  choose ((getter? descriptor property).map Getter.kind) (declaredSetters property path descriptor)

/-- The first such method in the ancestry of a type. -/
def setter? (descriptor : Descriptor El type) (property : String) : Option (Setter El) :=
  descriptor.search (fun _ path descriptor => declaredSetter? property path descriptor) .here

end MethodStrategy

/-! ## Fields by their names -/

namespace FieldStrategy

variable {start type : ι}

/-- The field of a type that reads a property. -/
def declaredGetter? (property : String) (path : Path El start type)
    (descriptor : Descriptor El type) : Option (Getter El) :=
  (descriptor.declared.field? property).map fun field =>
    ⟨.ofMember path descriptor.declared property field.name .field field.visibility, field.reading⟩

/-- The first field in the ancestry of a type that reads a property. -/
def getter? (descriptor : Descriptor El type) (property : String) : Option (Getter El) :=
  descriptor.search (fun _ path descriptor => declaredGetter? property path descriptor) .here

/-- The field of a type that writes a property. -/
def declaredSetter? (property : String) (path : Path El start type)
    (descriptor : Descriptor El type) : Option (Setter El) :=
  (descriptor.declared.field? property).map fun field =>
    ⟨.ofMember path descriptor.declared property field.name .field field.visibility,
      field.type.kind, field.writing?⟩

/-- The first field in the ancestry of a type that writes a property. -/
def setter? (descriptor : Descriptor El type) (property : String) : Option (Setter El) :=
  descriptor.search (fun _ path descriptor => declaredSetter? property path descriptor) .here

end FieldStrategy

/-! ## The two strategies -/

namespace Strategy

/-- Accessors are methods. -/
def methods : Strategy El where
  name := "property"
  getter? := MethodStrategy.getter?
  setter? := MethodStrategy.setter?

/-- Accessors are fields. -/
def fields : Strategy El where
  name := "field"
  getter? := FieldStrategy.getter?
  setter? := FieldStrategy.setter?

/-- Methods come before fields. -/
def standard : List (Strategy El) :=
  [methods, fields]

/-- The strategy of a name; methods need none. -/
def named? : String → Option (Strategy El)
  | "" | "property" => some methods
  | "field" => some fields
  | _ => none

end Strategy

end Sift
