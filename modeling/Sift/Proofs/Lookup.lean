import Mathlib.Data.List.Basic

/-!
# Looking up keys

What is found under a key is in the list, and a key of the list has something.
-/

set_option autoImplicit false

namespace Sift

variable {κ β : Type*} [DecidableEq κ] {entries : List (κ × β)} {key : κ} {value : β}

theorem mem_of_lookup (found : entries.lookup key = some value) : (key, value) ∈ entries := by
  obtain ⟨earlier, later, rfl, _⟩ := List.lookup_eq_some_iff.1 found
  simp

theorem exists_lookup_of_mem (member : key ∈ entries.map Prod.fst) :
    ∃ value, entries.lookup key = some value := by
  obtain ⟨⟨_, value⟩, inside, rfl⟩ := List.mem_map.1 member
  exact Option.isSome_iff_exists.1 (List.lookup_isSome_iff.2 ⟨_, inside, beq_self_eq_true _⟩)

end Sift
