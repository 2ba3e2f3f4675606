import Sift.Staff.Basic

/-!
# Generated persons

Persons can be made up instead of being loaded.  Whatever is left to chance is decided by a source
of random choices, and a seed determines the source, so the same seed always leads to the same
persons.  About one person in ten has no name and one in five no gender; the others take both from
a list, and no one is fired.
-/

namespace Sift

/-- A source of random choices.  Each choice takes the source to the state for the next one. -/
class Randomness where
  /-- The states of a source. -/
  Source : Type
  /-- The source of a seed. -/
  seeded (seed : UInt64) : Source
  /-- Something that happens with a probability. -/
  chance (probability : Float) : StateM Source Bool
  /-- One of so many positions. -/
  position (count : Nat) (nonempty : 0 < count) : StateM Source (Fin count)
  /-- An integer from the first bound up to the second, which is left out. -/
  integer (low high : Int32) (nonempty : low < high) :
    StateM Source { n : Int32 // low ≤ n ∧ n < high }

/-- The lower of two bounds is an integer from it up to the upper one. -/
theorem Randomness.low_within {low high : Int32} (nonempty : low < high) :
    low ≤ low ∧ low < high :=
  ⟨Int32.le_refl low, nonempty⟩

namespace Person

/-- The names that are given. -/
def givenNames : List String := [
  "alice", "bob", "carol", "dave", "erin", "frank", "grace", "heidi", "ivan", "judy", "mallory",
  "oscar", "peggy", "rob", "sybil", "trent", "victor", "walter"]

variable [Randomness]

/-- A name, or none. -/
def generateName : StateM Randomness.Source (Option String) := do
  if ← Randomness.chance 0.1 then
    return none
  else
    let position ← Randomness.position givenNames.length (by decide)
    return some (givenNames.get position)

/-- A gender, or none. -/
def generateGender : StateM Randomness.Source (Option Gender) := do
  if ← Randomness.chance 0.2 then
    return none
  else if ← Randomness.chance 0.5 then
    return some .male
  else
    return some .female

/-- A person. -/
def generate : StateM Randomness.Source Person := do
  let name ← generateName
  let gender ← generateGender
  let age ← Randomness.integer 0 100 (by decide)
  return ⟨name, age.val, gender, false⟩

/-- So many persons, one after the other. -/
def generateAll : (count : Nat) → StateM Randomness.Source (List Person)
  | 0 => return []
  | count + 1 => do
    let person ← generate
    let others ← generateAll count
    return person :: others

end Person

/-- So many persons from the source of a seed. -/
def generatePeople [Randomness] (count : Nat) (seed : UInt64) : List Person :=
  ((Person.generateAll count).run (Randomness.seeded seed)).1

end Sift
