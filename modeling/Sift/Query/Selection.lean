import Sift.Query.Binding

/-!
# Selecting candidates

A query works through candidates of its type in order.  `select` lists those that are accepted;
`apply` runs an action on them.  The first candidate whose evaluation fails makes the whole
selection fail, and since every candidate is evaluated before any action runs, a selection that
fails has changed nothing.
-/

namespace Sift.BoundQuery

variable {ι : Type} {El : ι → Type} [DecidableEq ι] {type : ι}

/-- The accepted candidates, in their order. -/
def select [Engine] (query : BoundQuery El type) :
    List (El type) → Except QueryError (List (El type))
  | [] => .ok []
  | candidate :: rest =>
    match query.accepts ⟨type, candidate⟩ with
    | .error error => .error error
    | .ok accepted =>
      (query.select rest).map fun others => if accepted then candidate :: others else others

/-- The candidates, each with whether it is accepted. -/
def marked [Engine] (query : BoundQuery El type) :
    List (El type) → Except QueryError (List (El type × Bool))
  | [] => .ok []
  | candidate :: rest =>
    match query.accepts ⟨type, candidate⟩ with
    | .error error => .error error
    | .ok accepted => (query.marked rest).map ((candidate, accepted) :: ·)

/-- Run an action on the candidates that are marked. -/
def actOn {m : Type → Type} [Monad m] (action : El type → m (El type)) :
    List (El type × Bool) → m (List (El type))
  | [] => pure []
  | (candidate, chosen) :: rest => do
    let candidate ← if chosen then action candidate else pure candidate
    let others ← actOn action rest
    pure (candidate :: others)

/-- Run an action on the accepted candidates.  The result is their number, and the candidates after
the actions. -/
def apply {m : Type → Type} [Monad m] [Engine] (query : BoundQuery El type)
    (action : El type → m (El type)) (candidates : List (El type)) :
    m (Except QueryError Nat × List (El type)) :=
  match query.marked candidates with
  | .error error => pure (.error error, candidates)
  | .ok marked => do
    let changed ← actOn action marked
    pure (.ok (marked.countP Prod.snd), changed)

end Sift.BoundQuery
