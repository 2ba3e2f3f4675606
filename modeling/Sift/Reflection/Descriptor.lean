import Sift.Reflection.Member

/-!
# Descriptors of types

A descriptor says what a type declares and which types stand above it.  The types of a program are
indexed: an index names a type and a family gives its objects, so a descriptor is a descriptor of
the objects at its index.

An object of a class contains an object of the superclass, reached by an embedding.  An interface
has no objects of its own; it is described anew for every type that implements it and reads the
implementing object itself.  The way from an object to the part that a type above it describes is a
path of such steps, and looking for something in a descriptor means trying the descriptor itself,
then the whole ancestry of its superclass, then the ancestry of each interface in order.
-/

namespace Sift

/-- Whether a type is a class or an interface. -/
inductive TypeForm where
  | classType
  | interfaceType
  deriving DecidableEq, Repr

/-- The name of a form. -/
def TypeForm.name : TypeForm → String
  | .classType => "Class"
  | .interfaceType => "Interface"

/-- What a type declares itself. -/
structure Declaration (α : Type) where
  name : String
  form : TypeForm
  visibility : Visibility
  methods : List (Method α)
  fields : List (Field α)

namespace Declaration

variable {α : Type}

/-- Whether a member is visible outside, which the type has to be as well. -/
def exposes (declared : Declaration α) (visibility : Visibility) : Bool :=
  declared.visibility == .shown && visibility == .shown

/-- The first field of a name. -/
def field? (declared : Declaration α) (name : String) : Option (Field α) :=
  declared.fields.find? fun field => field.name == name

end Declaration

/-! ## Embedded parts -/

/-- A part of an object, which can be read and replaced. -/
structure Embedding (α β : Type) where
  project : α → β
  replace : α → β → α

/-! ## Types and their ancestry -/

variable {ι : Type} {El : ι → Type}

mutual
/-- A type with its superclass, if it has one, and its interfaces. -/
inductive Descriptor (El : ι → Type) : ι → Type 1 where
  | base {type : ι} (declared : Declaration (El type)) (interfaces : Interfaces El type) :
      Descriptor El type
  | derived {type above : ι} (declared : Declaration (El type))
      (part : Embedding (El type) (El above)) (superclass : Descriptor El above)
      (interfaces : Interfaces El type) : Descriptor El type

/-- The interfaces that a type implements, in the order of declaration. -/
inductive Interfaces (El : ι → Type) : ι → Type 1 where
  | nil {type : ι} : Interfaces El type
  | cons {type : ι} (first : Descriptor El type) (rest : Interfaces El type) : Interfaces El type
end

namespace Descriptor

variable {type : ι}

/-- What the type declares itself. -/
def declared : Descriptor El type → Declaration (El type)
  | base declared _ => declared
  | derived declared _ _ _ => declared

/-- The interfaces of the type. -/
def interfaces : Descriptor El type → Interfaces El type
  | base _ interfaces => interfaces
  | derived _ _ _ interfaces => interfaces

/-- The name of the type. -/
def name (descriptor : Descriptor El type) : String :=
  descriptor.declared.name

/-- The name of the superclass. -/
def superclassName? : Descriptor El type → Option String
  | base _ _ => none
  | derived _ _ superclass _ => some superclass.name

end Descriptor

/-- The interfaces as a list. -/
def Interfaces.toList {type : ι} : Interfaces El type → List (Descriptor El type)
  | nil => []
  | cons first rest => first :: rest.toList

/-- The interfaces of a list. -/
def Interfaces.ofList {type : ι} : List (Descriptor El type) → Interfaces El type
  | [] => nil
  | first :: rest => cons first (ofList rest)

theorem Interfaces.toList_ofList {type : ι} (descriptors : List (Descriptor El type)) :
    (ofList descriptors).toList = descriptors := by
  induction descriptors with
  | nil => rfl
  | cons first rest inductionHypothesis => rw [ofList, toList, inductionHypothesis]

/-! ## Paths -/

/-- The way from the objects of one type to the part that a type above it describes. -/
inductive Path (El : ι → Type) (start : ι) : ι → Type where
  | here : Path El start start
  | superclass {type above : ι} (path : Path El start type)
      (part : Embedding (El type) (El above)) : Path El start above
  | interface {type : ι} (path : Path El start type) : Path El start type

namespace Path

variable {start type : ι}

/-- The part of an object at the end of a path. -/
def project : {type : ι} → Path El start type → El start → El type
  | _, here, object => object
  | _, superclass path part, object => part.project (path.project object)
  | _, interface path, object => path.project object

/-- An object with another part at the end of a path. -/
def replace : {type : ι} → Path El start type → El start → El type → El start
  | _, here, _, object => object
  | _, superclass path part, object, inner =>
    path.replace object (part.replace (path.project object) inner)
  | _, interface path, object, inner => path.replace object inner

end Path

/-! ## Searching -/

universe u

variable {start : ι} {β : Type u}

mutual
/-- The first hit in the ancestry of a type that is reached by a path. -/
def Descriptor.search (find : (type : ι) → Path El start type → Descriptor El type → Option β) :
    {type : ι} → Path El start type → Descriptor El type → Option β
  | type, path, .base declared interfaces =>
    (find type path (.base declared interfaces)).or (interfaces.search find path)
  | type, path, .derived declared part superclass interfaces =>
    (find type path (.derived declared part superclass interfaces)).or
      ((superclass.search find (path.superclass part)).or (interfaces.search find path))

/-- The first hit in the ancestries of interfaces. -/
def Interfaces.search (find : (type : ι) → Path El start type → Descriptor El type → Option β) :
    {type : ι} → Path El start type → Interfaces El type → Option β
  | _, _, .nil => none
  | _, path, .cons first rest => (first.search find path.interface).or (rest.search find path)
end

/-! ## Ancestors -/

/-- A type in the ancestry of another one, with the path to it. -/
structure Ancestor (El : ι → Type) (start : ι) where
  type : ι
  path : Path El start type
  descriptor : Descriptor El type

/-- The first type of a name in the ancestry of a type. -/
def Descriptor.ancestor? (descriptor : Descriptor El start) (name : String) :
    Option (Ancestor El start) :=
  descriptor.search
    (fun type path descriptor =>
      if descriptor.name = name then some ⟨type, path, descriptor⟩ else none)
    .here

/-- The superclass so many levels above a type that is reached by a path. -/
def Descriptor.superclassAt? : (level : Nat) → {type : ι} → Path El start type →
    Descriptor El type → Option (Ancestor El start)
  | 0, type, path, descriptor => some ⟨type, path, descriptor⟩
  | level + 1, _, path, .derived _ part superclass _ =>
    superclass.superclassAt? level (path.superclass part)
  | _ + 1, _, _, .base _ _ => none

end Sift
