import Mathlib.Data.List.Forall2
import Sift.Proofs.Failure
import Sift.Query.Selection

/-!
# Selecting and acting

Whether a candidate is selected is decided by the query and the state in which the candidate is
handed over.  Selecting therefore filters the candidates, unless evaluation fails for one of them,
and then the first such candidate decides the failure (`BoundQuery.select_eq_error_iff`,
`BoundQuery.select_eq_ok_iff`).

Acting on the selected candidates first evaluates all of them in the same way.  What remains is to
run the action on the selection and to put the results back in their places, which is so whatever
effects the action has (`BoundQuery.apply_eq`).  For an action with a state of its own this means
that a failure leaves the state and the candidates as they were, and that otherwise the action has
run once on each selected candidate, in order, and on no other.
-/

set_option autoImplicit false

namespace Sift

/-! ## Putting results back -/

section PuttingBack

variable {α : Type} (chosen : α → Bool)

/-- The candidates, with the chosen ones replaced in order by what they have become. -/
def putBack : List α → List α → List α
  | [], _ => []
  | candidate :: rest, changed =>
    if chosen candidate then changed.headD candidate :: putBack rest changed.tail
    else candidate :: putBack rest changed

/-- Every candidate keeps its place, and one that is not chosen is left alone. -/
theorem forall₂_putBack (candidates changed : List α) :
    List.Forall₂ (fun candidate left => chosen candidate = false → left = candidate) candidates
      (putBack chosen candidates changed) := by
  induction candidates generalizing changed with
  | nil => exact .nil
  | cons candidate rest ih =>
    rw [putBack]
    cases isChosen : chosen candidate with
    | true => exact .cons (fun isNot => absurd (isChosen.symm.trans isNot) nofun) (ih changed.tail)
    | false => exact .cons (fun _ => rfl) (ih changed)

/-- At the places of the chosen candidates stands what they have become. -/
theorem chosen_putBack {candidates changed : List α}
    (each : changed.length = (candidates.filter chosen).length) :
    ((candidates.zip (putBack chosen candidates changed)).filter fun pair => chosen pair.1).map
      Prod.snd = changed := by
  induction candidates generalizing changed with
  | nil => exact (List.eq_nil_of_length_eq_zero each).symm
  | cons candidate rest ih =>
    rw [putBack]
    cases isChosen : chosen candidate with
    | true =>
      rw [List.filter_cons_of_pos isChosen] at each
      obtain ⟨first, others, rfl⟩ := List.exists_cons_of_length_eq_add_one each
      rw [if_pos rfl, List.zip_cons_cons,
        List.filter_cons_of_pos (p := fun pair : α × α => chosen pair.1) isChosen, List.map_cons]
      exact congrArg (first :: ·) (ih (Nat.succ.inj each))
    | false =>
      have isNot : ¬chosen candidate = true := Bool.eq_false_iff.1 isChosen
      rw [List.filter_cons_of_neg isNot] at each
      rw [if_neg Bool.false_ne_true, List.zip_cons_cons,
        List.filter_cons_of_neg (p := fun pair : α × α => chosen pair.1) isNot]
      exact ih each

end PuttingBack

/-- An action that is run on each member of a list has a result for each. -/
theorem length_mapM_run {σ α β : Type} (action : α → StateM σ β) (members : List α) (state : σ) :
    ((members.mapM action).run state).1.length = members.length := by
  induction members generalizing state with
  | nil => rfl
  | cons first rest ih =>
    rw [List.mapM_cons]
    exact congrArg (· + 1) (ih _)

namespace BoundQuery

variable {ι : Type} {El : ι → Type} [DecidableEq ι] {type : ι} [Engine] (query : BoundQuery El type)

/-! ## Selecting -/

/-- Whether a candidate is definitely selected. -/
def chooses (candidate : El type) : Bool :=
  match query.evaluate ⟨type, candidate⟩ with
  | .ok truth => truth.selects
  | .error _ => false

variable {query}

/-- Selecting succeeds if every candidate can be evaluated, and filters the candidates then. -/
theorem select_eq_ok_iff {candidates selected : List (El type)} :
    query.select candidates = .ok selected ↔
      (∀ candidate ∈ candidates, ∃ truth, query.evaluate ⟨type, candidate⟩ = .ok truth) ∧
        candidates.filter query.chooses = selected := by
  induction candidates generalizing selected with
  | nil => simp [select]
  | cons candidate rest ih =>
    rw [select, accepts, List.forall_mem_cons, and_assoc]
    cases evaluated : query.evaluate ⟨type, candidate⟩ with
    | error error => simp [Except.map]
    | ok truth =>
      have choice : query.chooses candidate = truth.selects := by rw [chooses, evaluated]
      show (query.select rest).map _ = _ ↔ _
      simp [map_eq_ok_iff, ih, List.filter_cons, choice]

/-- Selecting fails as the first candidate does that cannot be evaluated. -/
theorem select_eq_error_iff {candidates : List (El type)} {error : QueryError} :
    query.select candidates = .error error ↔
      ∃ before failing after, candidates = before ++ failing :: after ∧
        (∀ candidate ∈ before, ∃ truth, query.evaluate ⟨type, candidate⟩ = .ok truth) ∧
        query.evaluate ⟨type, failing⟩ = .error error := by
  induction candidates with
  | nil => simp [select]
  | cons candidate rest ih =>
    rw [select, accepts]
    cases evaluated : query.evaluate ⟨type, candidate⟩ with
    | error found =>
      show Except.error found = _ ↔ _
      constructor
      · intro same
        exact ⟨[], candidate, rest, rfl, nofun, evaluated.trans (Except.error.inj same ▸ rfl)⟩
      · rintro ⟨_ | ⟨first, before⟩, failing, after, split, sound, fails⟩
        · obtain ⟨rfl, -⟩ := List.cons.inj split
          exact congrArg Except.error (Except.error.inj (evaluated.symm.trans fails))
        · obtain ⟨rfl, -⟩ := List.cons.inj split
          obtain ⟨truth, other⟩ := sound _ List.mem_cons_self
          exact nomatch evaluated.symm.trans other
    | ok truth =>
      show (query.select rest).map _ = _ ↔ _
      rw [map_eq_error_iff, ih]
      constructor
      · rintro ⟨before, failing, after, rfl, sound, fails⟩
        exact ⟨candidate :: before, failing, after, rfl,
          List.forall_mem_cons.2 ⟨⟨truth, evaluated⟩, sound⟩, fails⟩
      · rintro ⟨_ | ⟨first, before⟩, failing, after, split, sound, fails⟩
        · obtain ⟨rfl, -⟩ := List.cons.inj split
          exact nomatch evaluated.symm.trans fails
        · obtain ⟨rfl, same⟩ := List.cons.inj split
          exact ⟨before, failing, after, same, (List.forall_mem_cons.1 sound).2, fails⟩

/-- Whoever marks the candidates evaluates them as whoever selects does. -/
theorem marked_eq (candidates : List (El type)) :
    query.marked candidates =
      (query.select candidates).map fun _ =>
        candidates.map fun candidate => (candidate, query.chooses candidate) := by
  induction candidates with
  | nil => rfl
  | cons candidate rest ih =>
    rw [marked, select, accepts]
    cases evaluated : query.evaluate ⟨type, candidate⟩ with
    | error error => rfl
    | ok truth =>
      have choice : query.chooses candidate = truth.selects := by rw [chooses, evaluated]
      show (query.marked rest).map _ = ((query.select rest).map _).map _
      rw [ih, List.map_cons, choice]
      cases query.select rest <;> rfl

/-! ## Acting -/

section Acting

variable {m : Type → Type} [Monad m] [LawfulMonad m] (action : El type → m (El type))

omit [DecidableEq ι] [Engine] in
/-- Acting on marked candidates is acting on those that are marked. -/
theorem actOn_marked (chosen : El type → Bool) (candidates : List (El type)) :
    actOn action (candidates.map fun candidate => (candidate, chosen candidate)) =
      putBack chosen candidates <$> (candidates.filter chosen).mapM action := by
  induction candidates with
  | nil => simp [actOn, putBack]
  | cons candidate rest ih =>
    rw [List.map_cons, actOn, ih]
    cases isChosen : chosen candidate with
    | true => simp [putBack, isChosen]
    | false => simp [putBack, isChosen]

/-- To apply an action is to select, to run the action on the selection, and to put the results
back. -/
theorem apply_eq (candidates : List (El type)) :
    query.apply action candidates =
      match query.select candidates with
      | .error error => pure (.error error, candidates)
      | .ok selected =>
        (fun changed => (.ok selected.length, putBack query.chooses candidates changed)) <$>
          selected.mapM action := by
  rw [apply, marked_eq]
  cases outcome : query.select candidates with
  | error error => rfl
  | ok selected =>
    obtain ⟨-, rfl⟩ := select_eq_ok_iff.1 outcome
    have counted : (candidates.map fun candidate => (candidate, query.chooses candidate)).countP
        Prod.snd = (candidates.filter query.chooses).length := by
      rw [List.countP_map, List.countP_eq_length_filter]
      rfl
    simp only [Except.map, counted, actOn_marked, map_eq_pure_bind, bind_assoc, pure_bind]

end Acting

/-- **Selecting and acting are all or nothing, and alike.**  Selecting fails as the first candidate
does that cannot be evaluated, and an action is applied with the same failure, which leaves its
state and the candidates alone.  Otherwise the selection consists of the candidates that are
definitely selected as they are given; the action has run on each of these in turn and on no other,
and their number is counted. -/
theorem apply_of_select {σ : Type} (query : BoundQuery El type)
    (action : El type → StateM σ (El type)) (candidates : List (El type)) (state : σ) :
    (∀ error, query.select candidates = .error error ↔
      ∃ before failing after, candidates = before ++ failing :: after ∧
        (∀ candidate ∈ before, ∃ truth, query.evaluate ⟨type, candidate⟩ = .ok truth) ∧
        query.evaluate ⟨type, failing⟩ = .error error) ∧
    (∀ error, ((query.apply action candidates).run state).1.1 = .error error ↔
      query.select candidates = .error error) ∧
    (∀ error, query.select candidates = .error error →
      (query.apply action candidates).run state = ((.error error, candidates), state)) ∧
    (∀ candidate, query.chooses candidate = true ↔
      query.evaluate ⟨type, candidate⟩ = .ok (some true)) ∧
    ∀ selected, query.select candidates = .ok selected →
      selected = candidates.filter query.chooses ∧
      ∃ changed final left, (selected.mapM action).run state = (changed, final) ∧
        (query.apply action candidates).run state = ((.ok selected.length, left), final) ∧
        List.Forall₂ (fun candidate after => query.chooses candidate = false → after = candidate)
          candidates left ∧
        ((candidates.zip left).filter fun pair => query.chooses pair.1).map Prod.snd = changed := by
  have applied := query.apply_eq action candidates
  refine ⟨fun error => select_eq_error_iff, fun error => ?_, fun error failed => ?_,
    fun candidate => ?_, fun selected succeeded => ?_⟩
  · rw [applied]
    cases query.select candidates with
    | error found =>
      exact ⟨fun same => congrArg _ (Except.error.inj same),
        fun same => congrArg _ (Except.error.inj same)⟩
    | ok selected => exact ⟨nofun, nofun⟩
  · rw [applied, failed]
    rfl
  · rw [chooses]
    cases query.evaluate ⟨type, candidate⟩ with
    | error error => exact ⟨nofun, nofun⟩
    | ok truth =>
      show (truth == some true) = true ↔ _
      rw [beq_iff_eq, Except.ok.injEq]
  · obtain ⟨-, rfl⟩ := select_eq_ok_iff.1 succeeded
    refine ⟨rfl, _, _, _, rfl, ?_, forall₂_putBack _ _ _, chosen_putBack _ ?_⟩
    · rw [applied, succeeded]
      rfl
    · exact length_mapM_run action _ state

end BoundQuery

end Sift
