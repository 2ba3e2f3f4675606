import Sift.Expression.Evaluation
import Sift.Expression.Typing
import Sift.Language.Parser
import Sift.Query.Error
import Sift.Reflection.Resolver

/-!
# Binding queries to types

An expression is bound to a type by resolving each property it names, in ascending order of the
names, and by checking the term against the kinds of the accessors that were found.  All that can
be known without a candidate is settled then; evaluation only reads the properties of the candidate
it is given.
-/

namespace Sift

variable {ι : Type} {El : ι → Type}

/-- Accessors by the names of the properties they read. -/
abbrev Accessors (El : ι → Type) := List (String × Getter El)

namespace Accessors

/-- The kinds of the properties. -/
def schema (accessors : Accessors El) : Schema :=
  fun name => (accessors.lookup name).map Getter.kind

/-- The values of the properties of an object. -/
def context [DecidableEq ι] (accessors : Accessors El) (object : Object El) : Context :=
  fun name =>
    match accessors.lookup name with
    | none => .error (.unbound name)
    | some getter => (getter.get object).mapError .access

end Accessors

/-- An expression whose properties are bound to accessors of a type. -/
structure BoundQuery (El : ι → Type) (type : ι) where
  descriptor : Descriptor El type
  expression : Expression
  accessors : Accessors El

variable [DecidableEq ι] {type : ι}

namespace BoundQuery

/-- Bind an expression to a type. -/
def bind (resolver : Resolver El) (descriptor : Descriptor El type) (expression : Expression) :
    Resolver El × Except QueryError (BoundQuery El type) :=
  match resolver.gettersFor descriptor expression.identifiers with
  | (resolver, .error error) => (resolver, .error (.missing error))
  | (resolver, .ok accessors) =>
    match expression.term.checkPredicate (Accessors.schema accessors) with
    | .error error => (resolver, .error (.types error))
    | .ok () => (resolver, .ok ⟨descriptor, expression, accessors⟩)

/-- Bind the predicate that a text says. -/
def ofText [Engine] (resolver : Resolver El) (descriptor : Descriptor El type) (text : String) :
    Resolver El × Except QueryError (BoundQuery El type) :=
  match Parser.parse text with
  | .error error => (resolver, .error (.parse error))
  | .ok expression => bind resolver descriptor expression

/-- The truth value for a candidate. -/
def evaluate [Engine] (query : BoundQuery El type) (candidate : Object El) :
    Except QueryError Truth :=
  match query.expression.term.evaluate (Accessors.context query.accessors candidate) with
  | .error error => .error (.evaluation error)
  | .ok value =>
    match value.boolean?, value.kind with
    | some b, _ => .ok (some b)
    | none, none => .ok none
    | none, some kind => .error (.notPredicate kind)

/-- Whether a candidate is selected: only a definite true selects. -/
def accepts [Engine] (query : BoundQuery El type) (candidate : Object El) :
    Except QueryError Bool :=
  (query.evaluate candidate).map Truth.selects

end BoundQuery

end Sift
