import Sift.Staff.Basic

/-!
# Files of persons

A file of persons is a document that a codec turns into a list of them; the same codec turns a
single person into a record.  Whatever works with files does so for any codec.

A list is loaded from a file as a whole or not at all: the file has to be readable as text, the
codec has to accept it, and no one in it may have a negative age.
-/

namespace Sift

/-- How persons are turned into texts and back.  Both may fail and then say why. -/
class Codec where
  /-- The persons in the document of a list. -/
  decode (document : String) : Except String (List Person)
  /-- The record of a person. -/
  encode (person : Person) : Except String String

/-- What can be read as text under each path, or why nothing can. -/
abbrev Files := String → Except String String

/-- What keeps a file from being loaded. -/
inductive LoadFault where
  | unreadable (cause : String)
  | malformed (cause : String)
  | negativeAge
  deriving DecidableEq, Repr

/-- A file that was not loaded, and why. -/
structure LoadError where
  file : String
  fault : LoadFault
  deriving DecidableEq, Repr

namespace LoadError

/-- The text of an error. -/
def message (error : LoadError) : String :=
  match error.fault with
  | .unreadable _ => "Failed to read " ++ error.file
  | .malformed _ => "Failed to parse people from " ++ error.file
  | .negativeAge => "Negative age in " ++ error.file

/-- The errors below an error. -/
def causes (error : LoadError) : List String :=
  match error.fault with
  | .unreadable cause | .malformed cause => [cause]
  | .negativeAge => []

end LoadError

/-- Load the persons in the file under a path. -/
def loadPeople [Codec] (files : Files) (path : String) : Except LoadError (List Person) := do
  let document ← (files path).mapError fun cause => ⟨path, .unreadable cause⟩
  let people ← (Codec.decode document).mapError fun cause => ⟨path, .malformed cause⟩
  if people.any fun person => person.age < 0 then .error ⟨path, .negativeAge⟩ else .ok people

end Sift
