import Sift.Reflection.Strategy

/-!
# Resolving properties

A resolver tries its strategies in order and remembers every accessor it has found.  What it
remembers is kept apart by the type that was asked, by its form and name, and by the property; a
search that finds nothing is not remembered.  An accessor is a value, so whatever is done with one
that was handed out does not change the one that is remembered.

A memory is a map, of which no more is relied on than this: it is empty at the start and after it
was cleared, a key that was inserted is looked up with the value it was inserted with, other keys
are looked up as before, and the size counts the keys.  A list of pairs is such a map as long as
only keys are inserted that are not in it.
-/

namespace Sift

variable {ι : Type} {El : ι → Type}

/-- A property of a type, as far as resolvers tell them apart. -/
structure ResolverKey (ι : Type) where
  type : ι
  form : TypeForm
  typeName : String
  property : String
  deriving DecidableEq

/-- The key of a property of a described type. -/
def Descriptor.key {type : ι} (descriptor : Descriptor El type) (property : String) :
    ResolverKey ι :=
  ⟨type, descriptor.declared.form, descriptor.name, property⟩

/-- Strategies in the order in which they are tried, and the accessors found so far. -/
structure Resolver (El : ι → Type) where
  strategies : List (Strategy El)
  getters : List (ResolverKey ι × Getter El)
  setters : List (ResolverKey ι × Setter El)

namespace Resolver

/-- A resolver that has not found anything yet. -/
def ofStrategies (strategies : List (Strategy El)) : Resolver El :=
  ⟨strategies, [], []⟩

/-- A resolver that tries methods before fields. -/
def standard : Resolver El :=
  ofStrategies Strategy.standard

/-- The names of the strategies. -/
def strategyNames (resolver : Resolver El) : List String :=
  resolver.strategies.map Strategy.name

/-- The number of getters that are remembered. -/
def cachedGetters (resolver : Resolver El) : Nat :=
  resolver.getters.length

/-- The number of setters that are remembered. -/
def cachedSetters (resolver : Resolver El) : Nat :=
  resolver.setters.length

/-- Forget everything. -/
def clear (resolver : Resolver El) : Resolver El :=
  ofStrategies resolver.strategies

variable [DecidableEq ι] {type : ι}

/-- Resolve a property for reading. -/
def getter (resolver : Resolver El) (descriptor : Descriptor El type) (property : String) :
    Resolver El × Except MissingAccessor (Getter El) :=
  let key := descriptor.key property
  match resolver.getters.lookup key with
  | some getter => (resolver, .ok getter)
  | none =>
    match resolver.strategies.findSome? fun strategy => strategy.getter? descriptor property with
    | some getter => ({ resolver with getters := (key, getter) :: resolver.getters }, .ok getter)
    | none => (resolver, .error ⟨.getter, descriptor.name, property⟩)

/-- Resolve a property for writing. -/
def setter (resolver : Resolver El) (descriptor : Descriptor El type) (property : String) :
    Resolver El × Except MissingAccessor (Setter El) :=
  let key := descriptor.key property
  match resolver.setters.lookup key with
  | some setter => (resolver, .ok setter)
  | none =>
    match resolver.strategies.findSome? fun strategy => strategy.setter? descriptor property with
    | some setter => ({ resolver with setters := (key, setter) :: resolver.setters }, .ok setter)
    | none => (resolver, .error ⟨.setter, descriptor.name, property⟩)

/-- Resolve properties for reading, one after the other, up to the first that is missing. -/
def gettersFor (resolver : Resolver El) (descriptor : Descriptor El type) :
    List String → Resolver El × Except MissingAccessor (List (String × Getter El))
  | [] => (resolver, .ok [])
  | property :: rest =>
    match resolver.getter descriptor property with
    | (resolver, .error missing) => (resolver, .error missing)
    | (resolver, .ok getter) =>
      let (resolver, others) := resolver.gettersFor descriptor rest
      (resolver, others.map ((property, getter) :: ·))

end Resolver

end Sift
