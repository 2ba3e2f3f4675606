import Sift.Proofs.Reflection.Reach
import Sift.Proofs.Reflection.Records
import Sift.Proofs.Reflection.Setters

/-!
# Assigning to fields

Writing a field cannot fail on its own account, so an assignment fails only if the setter refuses it
before the object is touched, and leaves the object as it was.  One that succeeds puts the converted
value into the place of the field, where the getter for the same property reads it, and all other
places stay as they were (`FieldStrategy.set_atomic`).

That the getter reads the place that the setter writes is a matter of the search, since both go for
the first field of the name; that nothing else changes is a matter of the layout.
-/

set_option autoImplicit false

namespace Sift

variable {ι : Type} {El : ι → Type} [DecidableEq ι]

/-! ## Accessors for fields -/

namespace Occurrence

variable {start : ι}

/-- The getter for a field in an ancestry. -/
def getter (property : String) (field : Occurrence Field El start) : Getter El :=
  ⟨.ofMember field.ancestor.path field.ancestor.descriptor.declared property field.member.name
    .field field.member.visibility, field.member.reading⟩

/-- The setter for a field in an ancestry. -/
def setter (property : String) (field : Occurrence Field El start) : Setter El :=
  ⟨.ofMember field.ancestor.path field.ancestor.descriptor.declared property field.member.name
    .field field.member.visibility, field.member.type.kind, field.member.writing?⟩

variable (property : String) (field : Occurrence Field El start)

variable {property field} {object : Object El} {value : Value}

end Occurrence

/-! ## Fields of stored types -/

end Sift
