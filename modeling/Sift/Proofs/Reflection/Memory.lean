import Mathlib.Data.Finset.Card
import Mathlib.Data.List.Induction
import Sift.Proofs.Lookup
import Sift.Reflection.Resolver
import Sift.Staff.Basic

/-!
# What a resolver remembers cannot be seen

A client asks a resolver for getters and setters, has it forget everything, and does what it likes
with the accessors it was handed.  Every answer is that of a resolver that has not been asked
anything before (`Session.answers_as_new`).

One condition is needed, since a resolver tells descriptors apart by their type, form and name: of
the descriptors that a client asks about, no two may agree in these (`Session.Coherent`).

The argument is about one memory at a time.  A memory mirrors the keys that were resolved since it
was last cleared (`Mirrors`): it holds each of them once, with the accessor that every question with
this key would find.  `Mirrors.consult` says that asking keeps this and answers as if nothing were
remembered; `Session.Consistent.step` applies it to both memories of a resolver, and a run is an
induction on its requests.
-/

set_option autoImplicit false

namespace Sift

/-! ## One memory -/

section Memory

variable {κ β : Type*} [DecidableEq κ]

/-- Answer from memory, or else with what is found, which is then remembered. -/
def consult (memory : List (κ × β)) (key : κ) (found : Option β) : List (κ × β) × Option β :=
  match memory.lookup key with
  | some value => (memory, some value)
  | none => (found.elim memory fun value => (key, value) :: memory, found)

/-- Without an answer, nothing is remembered. -/
theorem consult_of_none {memory : List (κ × β)} {key : κ} {found : Option β}
    (unanswered : (consult memory key found).2 = none) : (consult memory key found).1 = memory := by
  unfold consult at unanswered ⊢
  cases hit : memory.lookup key with
  | some value => simp [hit] at unanswered
  | none =>
    simp only [hit] at unanswered
    rw [unanswered, Option.elim]

/-- A memory holds each key that was resolved exactly once, with a right value. -/
structure Mirrors (right : κ → β → Prop) (resolved : List κ) (memory : List (κ × β)) : Prop where
  nodup : (memory.map Prod.fst).Nodup
  mem_keys : ∀ key, key ∈ memory.map Prod.fst ↔ key ∈ resolved
  right : ∀ entry ∈ memory, right entry.1 entry.2

namespace Mirrors

variable {right : κ → β → Prop} {resolved : List κ} {memory : List (κ × β)}

omit [DecidableEq κ] in
theorem nil : Mirrors right [] ([] : List (κ × β)) where
  nodup := List.nodup_nil
  mem_keys _ := Iff.rfl
  right := nofun

/-- There are as many entries as different keys were resolved. -/
theorem length_eq (mirrors : Mirrors right resolved memory) :
    memory.length = resolved.toFinset.card := by
  have same : (memory.map Prod.fst).toFinset = resolved.toFinset := by
    ext key
    simp only [List.mem_toFinset]
    exact mirrors.mem_keys key
  rw [← same, List.toFinset_card_of_nodup mirrors.nodup, List.length_map]

/-- **Asking a memory answers with what is found, and the memory mirrors one more key if there is
something.** -/
theorem consult (mirrors : Mirrors right resolved memory) {key : κ} {found : Option β}
    (known : ∀ value, right key value ↔ found = some value) :
    (consult memory key found).2 = found ∧
      Mirrors right (found.elim resolved fun _ => key :: resolved)
        (consult memory key found).1 := by
  unfold Sift.consult
  cases hit : memory.lookup key with
  | some value =>
    have member : (key, value) ∈ memory := mem_of_lookup hit
    have inKeys : key ∈ resolved := (mirrors.mem_keys key).1 (List.mem_map_of_mem member)
    obtain rfl := (known value).1 (mirrors.right _ member)
    refine ⟨rfl, mirrors.nodup, fun other => ?_, mirrors.right⟩
    rw [mirrors.mem_keys]
    exact ⟨List.mem_cons_of_mem key, fun inside => (List.mem_cons.1 inside).elim (· ▸ inKeys) id⟩
  | none =>
    refine ⟨rfl, ?_⟩
    cases found with
    | none => exact mirrors
    | some value =>
      have fresh : key ∉ memory.map Prod.fst := by
        intro member
        obtain ⟨other, found⟩ := exists_lookup_of_mem member
        cases hit.symm.trans found
      refine ⟨List.nodup_cons.2 ⟨fresh, mirrors.nodup⟩, fun other => ?_, ?_⟩
      · simp only [Option.elim, List.map_cons, List.mem_cons, mirrors.mem_keys]
      · exact List.forall_mem_cons.2 ⟨(known value).2 rfl, mirrors.right⟩

end Mirrors

end Memory

variable {ι : Type} {El : ι → Type}

/-! ## Searching and answering -/

section Searching

variable {type : ι}

/-- What strategies find for reading a property, tried in their order. -/
def Strategy.findGetter (strategies : List (Strategy El)) (descriptor : Descriptor El type)
    (property : String) : Option (Getter El) :=
  strategies.findSome? fun strategy => strategy.getter? descriptor property

/-- What strategies find for writing a property, tried in their order. -/
def Strategy.findSetter (strategies : List (Strategy El)) (descriptor : Descriptor El type)
    (property : String) : Option (Setter El) :=
  strategies.findSome? fun strategy => strategy.setter? descriptor property

/-- The answer to a search that has found an accessor or none. -/
def Descriptor.answer {β : Type*} (descriptor : Descriptor El type) (access : Access)
    (property : String) (found : Option β) : Except MissingAccessor β :=
  found.elim (.error ⟨access, descriptor.name, property⟩) .ok

theorem Descriptor.answer_eq_error_iff {β : Type*} {descriptor : Descriptor El type}
    {access : Access} {property : String} {found : Option β} {missing : MissingAccessor} :
    descriptor.answer access property found = .error missing ↔
      found = none ∧ missing = ⟨access, descriptor.name, property⟩ := by
  cases found with
  | none => simp [answer, eq_comm]
  | some value => simp [answer]

theorem Descriptor.answer_eq_ok_iff {β : Type*} {descriptor : Descriptor El type}
    {access : Access} {property : String} {found : Option β} {value : β} :
    descriptor.answer access property found = .ok value ↔ found = some value := by
  cases found with
  | none => simp [answer]
  | some other => simp [answer]

end Searching

/-! ## Sessions -/

/-- What a client asks of a resolver, or does with an accessor that it was handed before. -/
inductive Request (El : ι → Type) where
  | getter {type : ι} (descriptor : Descriptor El type) (property : String)
  | setter {type : ι} (descriptor : Descriptor El type) (property : String)
  | clear
  | allowGetter (position : Nat) (allowed : Bool)
  | allowSetter (position : Nat) (allowed : Bool)

/-- What a client gets to see. -/
inductive Answer (El : ι → Type) where
  | getter (result : Except MissingAccessor (Getter El))
  | setter (result : Except MissingAccessor (Setter El))
  | done

/-- The descriptor that a request is about. -/
def Request.descriptor? : Request El → Option (Σ type, Descriptor El type)
  | getter descriptor _ | setter descriptor _ => some ⟨_, descriptor⟩
  | clear | allowGetter .. | allowSetter .. => none

/-- Whether a request makes the resolver forget. -/
def Request.isClear : Request El → Bool
  | clear => true
  | getter .. | setter .. | allowGetter .. | allowSetter .. => false

/-- What was asked and answered, the latest first. -/
abbrev History (El : ι → Type) := List (Request El × Answer El)

namespace History

/-- The key that an answered request has resolved for reading. -/
def resolvedGetter? : Request El × Answer El → Option (ResolverKey ι)
  | (.getter descriptor property, .getter (.ok _)) => some (descriptor.key property)
  | _ => none

/-- The key that an answered request has resolved for writing. -/
def resolvedSetter? : Request El × Answer El → Option (ResolverKey ι)
  | (.setter descriptor property, .setter (.ok _)) => some (descriptor.key property)
  | _ => none

/-- What was asked and answered since the resolver was last made to forget. -/
def sinceClear (history : History El) : History El :=
  history.takeWhile fun entry => !entry.1.isClear

/-- The keys resolved for reading since then, with repetitions. -/
def resolvedGetters (history : History El) : List (ResolverKey ι) :=
  history.sinceClear.filterMap resolvedGetter?

/-- The keys resolved for writing since then, with repetitions. -/
def resolvedSetters (history : History El) : List (ResolverKey ι) :=
  history.sinceClear.filterMap resolvedSetter?

variable {type : ι} (history : History El) (descriptor : Descriptor El type) (property : String)

/-- Only a search that succeeds resolves a key. -/
theorem resolvedGetters_getter (found : Option (Getter El)) :
    resolvedGetters ((.getter descriptor property,
        .getter (descriptor.answer .getter property found)) :: history) =
      found.elim history.resolvedGetters fun _ =>
        descriptor.key property :: history.resolvedGetters := by
  cases found <;> rfl

/-- Only a search that succeeds resolves a key. -/
theorem resolvedSetters_setter (found : Option (Setter El)) :
    resolvedSetters ((.setter descriptor property,
        .setter (descriptor.answer .setter property found)) :: history) =
      found.elim history.resolvedSetters fun _ =>
        descriptor.key property :: history.resolvedSetters := by
  cases found <;> rfl

end History

/-- A resolver in use, the accessors it has handed out, and its history. -/
structure Session (El : ι → Type) where
  resolver : Resolver El
  getters : List (Getter El)
  setters : List (Setter El)
  history : History El

namespace Session

/-- A resolver that nobody has asked. -/
def ofStrategies (strategies : List (Strategy El)) : Session El :=
  ⟨.ofStrategies strategies, [], [], []⟩

/-- Of the descriptors that requests are about, those of one type, form and name are the same. -/
def Coherent (requests : List (Request El)) : Prop :=
  ∀ first ∈ requests.filterMap Request.descriptor?,
    ∀ second ∈ requests.filterMap Request.descriptor?,
      first.1 = second.1 → first.2.declared.form = second.2.declared.form →
        first.2.name = second.2.name → first = second

variable [DecidableEq ι]

/-- One request.  An accessor that is handed out can be made accessible or not from then on. -/
def step (session : Session El) (request : Request El) : Session El :=
  match request with
  | .getter descriptor property =>
    let answered := session.resolver.getter descriptor property
    { session with
      resolver := answered.1
      getters := session.getters ++ answered.2.toOption.toList
      history := (request, .getter answered.2) :: session.history }
  | .setter descriptor property =>
    let answered := session.resolver.setter descriptor property
    { session with
      resolver := answered.1
      setters := session.setters ++ answered.2.toOption.toList
      history := (request, .setter answered.2) :: session.history }
  | .clear =>
    { session with
      resolver := session.resolver.clear
      history := (request, .done) :: session.history }
  | .allowGetter position allowed =>
    { session with
      getters := session.getters.modify position fun getter => getter.setAccessible allowed
      history := (request, .done) :: session.history }
  | .allowSetter position allowed =>
    { session with
      setters := session.setters.modify position fun setter => setter.setAccessible allowed
      history := (request, .done) :: session.history }

/-- The session after requests. -/
def after (strategies : List (Strategy El)) (requests : List (Request El)) : Session El :=
  requests.foldl step (ofStrategies strategies)

end Session

/-- The answer of a resolver that nobody has asked before. -/
def Request.answerOfNew [DecidableEq ι] (strategies : List (Strategy El)) : Request El → Answer El
  | getter descriptor property =>
    .getter ((Resolver.ofStrategies strategies).getter descriptor property).2
  | setter descriptor property =>
    .setter ((Resolver.ofStrategies strategies).setter descriptor property).2
  | clear | allowGetter .. | allowSetter .. => .done

/-! ## One request -/

namespace Resolver

variable [DecidableEq ι] {type : ι}

/-- Resolving for reading asks the memory of getters. -/
theorem getter_eq (resolver : Resolver El) (descriptor : Descriptor El type) (property : String) :
    resolver.getter descriptor property =
      let consulted := consult resolver.getters (descriptor.key property)
        (Strategy.findGetter resolver.strategies descriptor property)
      ({ resolver with getters := consulted.1 },
        descriptor.answer .getter property consulted.2) := by
  simp only [Resolver.getter, consult, Strategy.findGetter]
  cases resolver.getters.lookup (descriptor.key property) with
  | some getter => rfl
  | none =>
    cases resolver.strategies.findSome? fun strategy => strategy.getter? descriptor property with
    | some getter => rfl
    | none => rfl

/-- Resolving for writing asks the memory of setters. -/
theorem setter_eq (resolver : Resolver El) (descriptor : Descriptor El type) (property : String) :
    resolver.setter descriptor property =
      let consulted := consult resolver.setters (descriptor.key property)
        (Strategy.findSetter resolver.strategies descriptor property)
      ({ resolver with setters := consulted.1 },
        descriptor.answer .setter property consulted.2) := by
  simp only [Resolver.setter, consult, Strategy.findSetter]
  cases resolver.setters.lookup (descriptor.key property) with
  | some setter => rfl
  | none =>
    cases resolver.strategies.findSome? fun strategy => strategy.setter? descriptor property with
    | some setter => rfl
    | none => rfl

/-- A new resolver has nothing in memory, so it answers with what is found. -/
theorem getter_ofStrategies (strategies : List (Strategy El)) (descriptor : Descriptor El type)
    (property : String) :
    ((ofStrategies strategies).getter descriptor property).2 =
      descriptor.answer .getter property (Strategy.findGetter strategies descriptor property) := by
  rw [getter_eq]
  rfl

theorem setter_ofStrategies (strategies : List (Strategy El)) (descriptor : Descriptor El type)
    (property : String) :
    ((ofStrategies strategies).setter descriptor property).2 =
      descriptor.answer .setter property (Strategy.findSetter strategies descriptor property) := by
  rw [setter_eq]
  rfl

/-- A search that fails leaves a resolver as it is. -/
theorem getter_of_error {resolver : Resolver El} {descriptor : Descriptor El type}
    {property : String} {missing : MissingAccessor}
    (failed : (resolver.getter descriptor property).2 = .error missing) :
    (resolver.getter descriptor property).1 = resolver := by
  rw [getter_eq] at failed ⊢
  obtain ⟨unanswered, -⟩ := Descriptor.answer_eq_error_iff.1 failed
  dsimp only
  rw [consult_of_none unanswered]

/-- A search that fails leaves a resolver as it is. -/
theorem setter_of_error {resolver : Resolver El} {descriptor : Descriptor El type}
    {property : String} {missing : MissingAccessor}
    (failed : (resolver.setter descriptor property).2 = .error missing) :
    (resolver.setter descriptor property).1 = resolver := by
  rw [setter_eq] at failed ⊢
  obtain ⟨unanswered, -⟩ := Descriptor.answer_eq_error_iff.1 failed
  dsimp only
  rw [consult_of_none unanswered]

end Resolver

namespace Session

/-- A value is right for a key if it is found for every request of a sort that has this key. -/
def Right {β : Type*} (asks : (type : ι) → Descriptor El type → String → Request El)
    (find : (type : ι) → Descriptor El type → String → Option β) (asked : List (Request El))
    (key : ResolverKey ι) (value : β) : Prop :=
  ∀ type descriptor property, asks type descriptor property ∈ asked →
    descriptor.key property = key → find type descriptor property = some value

/-- Requests of one key are about the same descriptor and property. -/
theorem Coherent.eq_of_key {asked : List (Request El)} (coherent : Coherent asked)
    {first second : Request El} (member : first ∈ asked) (member' : second ∈ asked)
    {type type' : ι} {descriptor : Descriptor El type} {descriptor' : Descriptor El type'}
    (about : first.descriptor? = some ⟨type, descriptor⟩)
    (about' : second.descriptor? = some ⟨type', descriptor'⟩) {property property' : String}
    (same : descriptor.key property = descriptor'.key property') :
    (⟨type, descriptor⟩ : Σ type, Descriptor El type) = ⟨type', descriptor'⟩ ∧
      property = property' := by
  obtain ⟨sameType, sameForm, sameName, sameProperty⟩ := ResolverKey.mk.inj same
  refine ⟨?_, sameProperty⟩
  exact coherent _ (List.mem_filterMap.2 ⟨first, member, about⟩) _
    (List.mem_filterMap.2 ⟨second, member', about'⟩) sameType sameForm sameName

/-- So what is found for one request is right for all of them. -/
theorem Coherent.right_iff {asked : List (Request El)} (coherent : Coherent asked) {β : Type*}
    {asks : (type : ι) → Descriptor El type → String → Request El}
    (about : ∀ type descriptor property,
      (asks type descriptor property).descriptor? = some ⟨type, descriptor⟩)
    {find : (type : ι) → Descriptor El type → String → Option β} {type : ι}
    {descriptor : Descriptor El type} {property : String}
    (member : asks type descriptor property ∈ asked) (value : β) :
    Right asks find asked (descriptor.key property) value ↔
      find type descriptor property = some value := by
  constructor
  · intro right
    exact right type descriptor property member rfl
  · intro found type' descriptor' property' member' same
    obtain ⟨sameDescriptor, rfl⟩ :=
      coherent.eq_of_key member' member (about ..) (about ..) same
    cases sameDescriptor
    exact found

variable [DecidableEq ι] {strategies : List (Strategy El)}

/-- What a session keeps: its answers are those of new resolvers, and each memory mirrors what was
resolved since it was last cleared. -/
structure Consistent (strategies : List (Strategy El)) (asked : List (Request El))
    (session : Session El) : Prop where
  searches : session.resolver.strategies = strategies
  answers : ∀ entry ∈ session.history, entry.2 = entry.1.answerOfNew strategies
  getters : Mirrors (Right (@Request.getter ι El) (fun _ => Strategy.findGetter strategies) asked)
    session.history.resolvedGetters session.resolver.getters
  setters : Mirrors (Right (@Request.setter ι El) (fun _ => Strategy.findSetter strategies) asked)
    session.history.resolvedSetters session.resolver.setters

theorem consistent_ofStrategies (strategies : List (Strategy El)) (asked : List (Request El)) :
    (ofStrategies strategies).Consistent strategies asked where
  searches := rfl
  answers := List.forall_mem_nil _
  getters := .nil
  setters := .nil

/-- **One request keeps a session consistent.** -/
theorem Consistent.step {asked : List (Request El)} {session : Session El}
    (consistent : session.Consistent strategies asked) (coherent : Coherent asked)
    {request : Request El} (member : request ∈ asked) :
    (session.step request).Consistent strategies asked := by
  obtain ⟨rfl, answers, getters, setters⟩ := consistent
  cases request with
  | getter descriptor property =>
    obtain ⟨found, mirrors⟩ := getters.consult (coherent.right_iff (fun _ _ _ => rfl) member)
    simp only [Session.step, Resolver.getter_eq, found]
    refine ⟨rfl, List.forall_mem_cons.2 ⟨?_, answers⟩, ?_, setters⟩
    · rw [Request.answerOfNew, Resolver.getter_ofStrategies]
    · rw [History.resolvedGetters_getter]
      exact mirrors
  | setter descriptor property =>
    obtain ⟨found, mirrors⟩ := setters.consult (coherent.right_iff (fun _ _ _ => rfl) member)
    simp only [Session.step, Resolver.setter_eq, found]
    refine ⟨rfl, List.forall_mem_cons.2 ⟨?_, answers⟩, getters, ?_⟩
    · rw [Request.answerOfNew, Resolver.setter_ofStrategies]
    · rw [History.resolvedSetters_setter]
      exact mirrors
  | clear => exact ⟨rfl, List.forall_mem_cons.2 ⟨rfl, answers⟩, .nil, .nil⟩
  | allowGetter position allowed =>
    exact ⟨rfl, List.forall_mem_cons.2 ⟨rfl, answers⟩, getters, setters⟩
  | allowSetter position allowed =>
    exact ⟨rfl, List.forall_mem_cons.2 ⟨rfl, answers⟩, getters, setters⟩

/-! ## Whole sessions -/

theorem after_append_singleton (requests : List (Request El)) (request : Request El) :
    after strategies (requests ++ [request]) = (after strategies requests).step request := by
  simp only [after, List.foldl_append, List.foldl_cons, List.foldl_nil]

/-- What holds of a new session and is kept by every request holds after any requests. -/
theorem after_induction {asked requests : List (Request El)} {kept : Session El → Prop}
    (start : kept (ofStrategies strategies))
    (step : ∀ session request, request ∈ asked → kept session → kept (session.step request))
    (among : requests ⊆ asked) : kept (after strategies requests) := by
  induction requests using List.reverseRecOn with
  | nil => exact start
  | append_singleton requests request ih =>
    rw [after_append_singleton]
    obtain ⟨before, last⟩ := List.append_subset.1 among
    exact step _ request (last (List.mem_singleton_self request)) (ih before)

/-- The first requests of coherent ones lead to a consistent session. -/
theorem consistent_after {asked requests : List (Request El)} (coherent : Coherent asked)
    (among : requests ⊆ asked) : (after strategies requests).Consistent strategies asked :=
  after_induction (consistent_ofStrategies strategies asked)
    (fun _ _ member consistent => consistent.step coherent member) among

/-- The history records every request. -/
theorem requests_history (requests : List (Request El)) :
    (after strategies requests).history.map Prod.fst = requests.reverse := by
  induction requests using List.reverseRecOn with
  | nil => rfl
  | append_singleton requests request ih =>
    rw [after_append_singleton, List.reverse_append]
    cases request <;> exact congrArg _ ih

/-- **A resolver answers as if it had never been asked before.**  What a client did with accessors
it was handed plays no part.  The resolver remembers as many accessors as different keys were
resolved since it was last made to forget, and for these keys only: a search that fails leaves it
as it is, and one for reading leaves what it remembers for writing alone, and conversely. -/
theorem answers_as_new {requests : List (Request El)} (coherent : Coherent requests) :
    let session := after strategies requests
    session.history =
        (requests.map fun request => (request, request.answerOfNew strategies)).reverse ∧
      session.resolver.cachedGetters = session.history.resolvedGetters.toFinset.card ∧
      session.resolver.cachedSetters = session.history.resolvedSetters.toFinset.card ∧
      (∀ key, key ∈ session.resolver.getters.map Prod.fst ↔ key ∈ session.history.resolvedGetters) ∧
      (∀ key, key ∈ session.resolver.setters.map Prod.fst ↔ key ∈ session.history.resolvedSetters) ∧
      ∀ (type : ι) (descriptor : Descriptor El type) (property : String),
        ((session.resolver.getter descriptor property).1.setters = session.resolver.setters ∧
          (session.resolver.setter descriptor property).1.getters = session.resolver.getters) ∧
        (∀ missing, (session.resolver.getter descriptor property).2 = .error missing →
          (session.resolver.getter descriptor property).1 = session.resolver) ∧
        ∀ missing, (session.resolver.setter descriptor property).2 = .error missing →
          (session.resolver.setter descriptor property).1 = session.resolver := by
  intro session
  have consistent : session.Consistent strategies requests :=
    consistent_after coherent (List.Subset.refl requests)
  refine ⟨?_, consistent.getters.length_eq, consistent.setters.length_eq,
    consistent.getters.mem_keys, consistent.setters.mem_keys, fun type descriptor property => ?_⟩
  · have answered : session.history.map (fun entry => (entry.1, entry.1.answerOfNew strategies)) =
        session.history := by
      refine (List.map_congr_left fun entry member => ?_).trans (List.map_id _)
      rw [← consistent.answers entry member]
      rfl
    rw [← List.map_reverse, ← requests_history, List.map_map]
    exact answered.symm
  · refine ⟨⟨?_, ?_⟩, fun _ => Resolver.getter_of_error, fun _ => Resolver.setter_of_error⟩
    · rw [Resolver.getter_eq]
    · rw [Resolver.setter_eq]

/-- Of two types that share a property, each keeps its own getter, also after a client has locked
the first one, and a property that neither has is not remembered. -/
theorem answers_as_new_staff :
    let requests : List (Request Staff) :=
      [.getter Person.descriptor "age", .allowGetter 0 false, .getter Employee.descriptor "age",
        .getter Person.descriptor "nickname", .setter Person.descriptor "age",
        .getter Person.descriptor "age"]
    let session := after [Strategy.fields] requests
    Coherent requests ∧
      session.history =
        (requests.map fun request => (request, request.answerOfNew [Strategy.fields])).reverse ∧
      session.resolver.cachedGetters = 2 ∧ session.resolver.cachedSetters = 1 := by
  intro requests session
  have coherent : Coherent requests := by
    have about : requests.filterMap Request.descriptor? =
        [⟨.person, Person.descriptor⟩, ⟨.employee, Employee.descriptor⟩,
          ⟨.person, Person.descriptor⟩, ⟨.person, Person.descriptor⟩,
          ⟨.person, Person.descriptor⟩] := rfl
    rw [Coherent, about]
    simp
  obtain ⟨history, getters, setters, -⟩ := answers_as_new coherent
  refine ⟨coherent, history, getters.trans ?_, setters.trans ?_⟩
  · rfl
  · rfl

end Session

end Sift
