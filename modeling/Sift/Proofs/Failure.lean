/-!
# Computations that may fail

A sequence of computations that may fail has a result exactly when each of them has one.  The same
goes for computations that also hand on a state.
-/

set_option autoImplicit false

namespace Sift

universe u u' v w

variable {ε : Type u} {ε' : Type u'} {α : Type v} {β : Type w}

theorem bind_eq_ok_iff {result : Except ε α} {next : α → Except ε β} {value : β} :
    result.bind next = .ok value ↔ ∃ middle, result = .ok middle ∧ next middle = .ok value := by
  cases result with
  | error error => exact ⟨nofun, fun ⟨_, found, _⟩ => nomatch found⟩
  | ok middle => exact ⟨fun found => ⟨middle, rfl, found⟩, fun ⟨_, .refl _, found⟩ => found⟩

/-- The same law for a sequence that is written with `do`. -/
theorem do_eq_ok_iff {α β : Type v} {result : Except ε α} {next : α → Except ε β} {value : β} :
    (result >>= next) = .ok value ↔ ∃ middle, result = .ok middle ∧ next middle = .ok value :=
  bind_eq_ok_iff

/-- It fails where the first of them fails. -/
theorem bind_eq_error_iff {result : Except ε α} {next : α → Except ε β} {error : ε} :
    result.bind next = .error error ↔
      result = .error error ∨ ∃ middle, result = .ok middle ∧ next middle = .error error := by
  cases result with
  | error found => simp [Except.bind]
  | ok middle => simp [Except.bind]

theorem map_eq_ok_iff {result : Except ε α} {f : α → β} {value : β} :
    result.map f = .ok value ↔ ∃ middle, result = .ok middle ∧ f middle = value := by
  cases result with
  | error error => exact ⟨nofun, fun ⟨_, found, _⟩ => nomatch found⟩
  | ok middle =>
    exact ⟨fun found => ⟨middle, rfl, Except.ok.inj found⟩, fun ⟨_, .refl _, same⟩ => same ▸ rfl⟩

theorem map_eq_error_iff {result : Except ε α} {f : α → β} {error : ε} :
    result.map f = .error error ↔ result = .error error := by
  cases result with
  | error found =>
    exact ⟨fun same => Except.error.inj same ▸ rfl, fun same => Except.error.inj same ▸ rfl⟩
  | ok value => exact ⟨nofun, nofun⟩

theorem exists_error_iff {result : Except ε α} :
    (∃ error, result = .error error) ↔ ∀ value, result ≠ .ok value := by
  cases result with
  | error error => exact ⟨fun _ => nofun, fun _ => ⟨error, rfl⟩⟩
  | ok value => exact ⟨nofun, fun none => absurd rfl (none value)⟩

theorem exists_ok_of_isOk {result : Except ε α} (succeeds : result.isOk = true) :
    ∃ value, result = .ok value := by
  cases result with
  | error error => cases succeeds
  | ok value => exact ⟨value, rfl⟩

theorem mapError_eq_ok_iff {result : Except ε α} {f : ε → ε'} {value : α} :
    result.mapError f = .ok value ↔ result = .ok value := by
  cases result with
  | error error => exact ⟨nofun, nofun⟩
  | ok found => exact ⟨fun same => Except.ok.inj same ▸ rfl, fun same => Except.ok.inj same ▸ rfl⟩

theorem mapError_eq_error_iff {result : Except ε α} {f : ε → ε'} {error : ε'} :
    result.mapError f = .error error ↔ ∃ cause, result = .error cause ∧ f cause = error := by
  cases result with
  | error cause =>
    exact ⟨fun same => ⟨cause, rfl, Except.error.inj same⟩, fun ⟨_, .refl _, same⟩ => same ▸ rfl⟩
  | ok value => exact ⟨nofun, fun ⟨_, found, _⟩ => nomatch found⟩

theorem run_bind_eq_ok_iff {ε σ α β : Type} {first : EStateM ε σ α} {next : α → EStateM ε σ β}
    {state state' : σ} {value : β} :
    (first >>= next) state = .ok value state' ↔
      ∃ middle between, first state = .ok middle between ∧
        next middle between = .ok value state' := by
  show EStateM.bind first next state = _ ↔ _
  unfold EStateM.bind
  cases first state with
  | error error left => exact ⟨nofun, fun ⟨_, _, found, _⟩ => nomatch found⟩
  | ok middle between =>
    exact ⟨fun done => ⟨middle, between, rfl, done⟩, fun ⟨_, _, .refl _, done⟩ => done⟩

end Sift
