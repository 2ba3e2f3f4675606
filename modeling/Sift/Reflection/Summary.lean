import Sift.Reflection.Descriptor
import Sift.Text.Quoted

/-!
# Summaries of types

The summary of a type names what it is, the types directly above it and the members it declares.
-/

namespace Sift

variable {ι : Type} {El : ι → Type} {type : ι}

/-- Quoted names between brackets. -/
def quotedNames (names : List String) : String :=
  "[" ++ ", ".intercalate (names.map Text.quoted) ++ "]"

/-- The summary of a type. -/
def Descriptor.summary (descriptor : Descriptor El type) : String :=
  let superclass := match descriptor.superclassName? with
    | some name => "Some(" ++ Text.quoted name ++ ")"
    | none => "None"
  "TypeInfo \x7b name: " ++ Text.quoted descriptor.name ++
    ", kind: " ++ descriptor.declared.form.name ++
    ", superclass: " ++ superclass ++
    ", interfaces: " ++ quotedNames (descriptor.interfaces.toList.map Descriptor.name) ++
    ", methods: " ++ quotedNames (descriptor.declared.methods.map Method.name) ++
    ", fields: " ++ quotedNames (descriptor.declared.fields.map Field.name) ++ " \x7d"

end Sift
