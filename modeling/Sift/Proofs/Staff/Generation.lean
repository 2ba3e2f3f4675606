import Sift.Staff.Generation

/-!
# What is generated

However the random choices turn out, a generated person is between zero and ninety-nine years old,
has no name or one from the list, and is not fired (`Person.isGenerated_generate`).  The next person
is generated in the same way from whatever source is left, so this holds of everyone, and there are
as many persons as were asked for (`generatePeople_isGenerated`).
-/

set_option autoImplicit false

namespace Sift

/-- A sequence of two steps runs the second on what the first has left. -/
theorem run_stateM_bind {σ α β : Type} (first : StateM σ α) (next : α → StateM σ β) (state : σ) :
    (first >>= next).run state = (next (first.run state).1).run (first.run state).2 :=
  rfl

namespace Person

/-- A person as it is generated. -/
structure IsGenerated (person : Person) : Prop where
  natural : 0 ≤ person.age
  young : person.age < 100
  named : ∀ name ∈ person.name, name ∈ givenNames
  notFired : person.firedNearRetirement = false

variable [Randomness]

theorem mem_givenNames_of_generateName (source : Randomness.Source) :
    ∀ name ∈ (generateName.run source).1, name ∈ givenNames := by
  rw [generateName, run_stateM_bind]
  cases ((Randomness.chance 0.1).run source).1 with
  | true => exact nofun
  | false =>
    rintro _ ⟨⟩
    exact List.get_mem ..

theorem isGenerated_generate (source : Randomness.Source) :
    IsGenerated (generate.run source).1 := by
  simp only [generate, run_stateM_bind]
  generalize (Randomness.integer 0 100 _).run _ = drawn
  obtain ⟨⟨age, natural, young⟩, left⟩ := drawn
  exact ⟨natural, young, mem_givenNames_of_generateName source, rfl⟩

/-- A run generates as many persons as were asked for, and nothing else. -/
theorem isGenerated_generateAll (count : Nat) (source : Randomness.Source) :
    ((generateAll count).run source).1.length = count ∧
      ∀ person ∈ ((generateAll count).run source).1, IsGenerated person := by
  induction count generalizing source with
  | zero => exact ⟨rfl, nofun⟩
  | succ count ih =>
    obtain ⟨length, others⟩ := ih (generate.run source).2
    rw [generateAll, run_stateM_bind, run_stateM_bind]
    exact ⟨congrArg (· + 1) length, List.forall_mem_cons.2 ⟨isGenerated_generate source, others⟩⟩

end Person

/-- **As many persons are generated as are asked for, each as persons are generated.** -/
theorem generatePeople_isGenerated [Randomness] (count : Nat) (seed : UInt64) :
    (generatePeople count seed).length = count ∧
      ∀ person ∈ generatePeople count seed, person.IsGenerated :=
  Person.isGenerated_generateAll count _

end Sift
