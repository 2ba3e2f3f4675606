import Mathlib.Data.List.Forall2
import Sift.CommandLine.Run
import Sift.Pattern.Matching
import Sift.Proofs.Query.Strategies
import Sift.Staff.Document

/-!
# What a run shows

A run finds its persons in a file or generates them (`Options.Finds`).  It shows those that its
query selects, or their number, or why there is no selection (`Report.Shows`), behind the
explanation of the query if one is asked for.  The choice of strategies comes in once, when the
query is bound: the persons are there before, and what is shown depends on the selection alone
(`run_of_bound`).

Since the strategies agree on the staff, a run shows the same selection whatever strategies are
chosen, provided that the query can be bound with them (`BoundQuery.staff_strategies`).  Only the
explanations may differ, which name the accessors.
-/

set_option autoImplicit false

namespace Sift

/-- A source that always decides in the same way: nothing happens, and the first of everything is
taken. -/
@[reducible]
def Randomness.first : Randomness where
  Source := Unit
  seeded _ := ()
  chance _ source := (false, source)
  position _ nonempty source := (⟨0, nonempty⟩, source)
  integer low _ nonempty source := (⟨low, low_within nonempty⟩, source)

namespace CommandLine

/-! ## Selections -/

section Shows

variable [Codec]

/-- What is shown of a selection: why there is none, how many persons there are, or their records in
order, up to the first person that has none. -/
inductive Report.Shows (countOnly : Bool) : Except QueryError (List Person) → Report → Prop where
  | failed {error : QueryError} : Shows countOnly (.error error) ⟨[], some (.selecting error)⟩
  | number {selected : List Person} (counted : countOnly = true) :
      Shows countOnly (.ok selected) ⟨[toString selected.length], none⟩
  | records {selected : List Person} {records : List String} (listed : countOnly = false)
      (encoded : List.Forall₂ (fun person record => Codec.encode person = .ok record)
        selected records) :
      Shows countOnly (.ok selected) ⟨records, none⟩
  | stopped {shown rest : List Person} {person : Person} {records : List String} {message : String}
      (listed : countOnly = false)
      (encoded : List.Forall₂ (fun person record => Codec.encode person = .ok record)
        shown records)
      (refused : Codec.encode person = .error message) :
      Shows countOnly (.ok (shown ++ person :: rest)) ⟨records, some (.writing message)⟩

/-- Records are written as long as there are some. -/
theorem shows_recordsReport (selected : List Person) :
    Report.Shows false (.ok selected) (recordsReport selected) := by
  induction selected with
  | nil => exact .records rfl .nil
  | cons person rest ih =>
    rw [recordsReport]
    cases encoded : Codec.encode person with
    | error message =>
      show Report.Shows false (.ok ([] ++ person :: rest)) _
      exact .stopped rfl .nil encoded
    | ok record =>
      generalize recordsReport rest = report at ih
      cases ih with
      | number counted => cases counted
      | records _ others => exact .records rfl (.cons encoded others)
      | @stopped shown left other records message _ others refused =>
        show Report.Shows false (.ok (person :: shown ++ other :: left)) _
        exact .stopped rfl (.cons encoded others) refused

/-- The report on a selection shows it. -/
theorem shows_selectionReport (countOnly : Bool) (selected : Except QueryError (List Person)) :
    Report.Shows countOnly selected (selectionReport countOnly selected) := by
  cases selected with
  | error error => exact .failed
  | ok selected =>
    cases countOnly with
    | true => exact .number rfl
    | false => exact shows_recordsReport selected

end Shows

/-! ## Persons -/

section Persons

variable [Codec] [Randomness]

/-- The persons that a query is run on: those in the file that is given, or generated ones. -/
inductive Options.Finds (options : Options) (files : Files) : List Person → Prop where
  | loaded {path : String} {people : List Person} (given : options.input = some path)
      (found : loadPeople files path = .ok people) : Finds options files people
  | generated (none : options.input = none) :
      Finds options files (generatePeople options.generate options.seed)

/-- A run has no other persons. -/
theorem Options.people_eq_ok_iff {options : Options} {files : Files} {people : List Person} :
    options.people files = .ok people ↔ options.Finds files people := by
  constructor
  · intro found
    cases given : options.input with
    | none =>
      rw [Options.people, given] at found
      obtain rfl := Except.ok.inj found
      exact .generated given
    | some path =>
      rw [Options.people, given] at found
      exact .loaded given found
  · intro finds
    cases finds with
    | loaded given found =>
      rw [Options.people, given]
      exact found
    | generated none => rw [Options.people, none]

end Persons

/-! ## Runs -/

theorem StrategyChoice.recalls_resolver (choice : StrategyChoice) :
    choice.resolver.Recalls choice.strategies StaffType.descriptor :=
  Resolver.recalls_ofStrategies

section Runs

variable [Engine] {options : Options} {choice : StrategyChoice}

/-- The resolver of a choice answers as the strategies of the choice do. -/
theorem StrategyChoice.ofText_resolver (choice : StrategyChoice) (text : String) :
    (BoundQuery.ofText choice.resolver Person.descriptor text).2 =
      StaffType.person.ask choice.strategies [] text :=
  (BoundQuery.ofText_eq_ofTextWith choice.recalls_resolver .person text).1.trans
    (StaffType.person.ask_eq choice.strategies [] text).symm

variable [Codec] [Randomness] {files : Files} {people : List Person}

/-- Persons that cannot be loaded end a run before its query is bound. -/
theorem run_of_missing {path : String} {error : LoadError} (given : options.input = some path)
    (missing : loadPeople files path = .error error) :
    Options.run { options with strategy := choice } files = ⟨[], some (.loading error)⟩ := by
  have same : Options.people { options with strategy := choice } files = .error error := by
    rw [Options.people, given]
    exact missing
  rw [Options.run, same]

section Found

variable (found : options.Finds files people)
include found

/-- The persons of a run do not depend on the choice of strategies. -/
theorem run_of_found :
    Options.run { options with strategy := choice } files =
      runQuery { options with strategy := choice } people := by
  have same : Options.people { options with strategy := choice } files = .ok people :=
    (Options.people_eq_ok_iff.2 found : options.people files = .ok people)
  rw [Options.run, same]

/-- A query that cannot be bound ends a run before anything is shown. -/
theorem run_of_unbound {error : QueryError}
    (unbound : StaffType.person.ask choice.strategies [] options.query = .error error) :
    Options.run { options with strategy := choice } files =
      ⟨[], some (.building options.query error)⟩ := by
  rw [← choice.ofText_resolver] at unbound
  rw [run_of_found found, runQuery, unbound]

/-- Otherwise a run reports on the selection, whatever the query was bound with. -/
theorem run_of_bound {query : BoundQuery Staff .person}
    (bound : StaffType.person.ask choice.strategies [] options.query = .ok query) :
    Options.run { options with strategy := choice } files =
      (selectionReport options.countOnly (query.select people)).behind
        (options.explained query) := by
  rw [← choice.ofText_resolver] at bound
  rw [run_of_found found, runQuery, bound]
  rfl

/-- Choices that lead to the same query or the same failure lead to the same report. -/
theorem run_congr {choice' : StrategyChoice}
    (same : StaffType.person.ask choice.strategies [] options.query =
      StaffType.person.ask choice'.strategies [] options.query) :
    Options.run { options with strategy := choice } files =
      Options.run { options with strategy := choice' } files := by
  cases asked : StaffType.person.ask choice'.strategies [] options.query with
  | error error => rw [run_of_unbound found asked, run_of_unbound found (same.trans asked)]
  | ok query => rw [run_of_bound found asked, run_of_bound found (same.trans asked)]

end Found

end Runs

end CommandLine

/-- **The strategies agree on the staff.**  For every text and both types, methods alone lead to the
same query as the standard strategies or to the same failure, whatever queries the two resolvers
have served before; and if fields alone lead to a query, then the standard strategies lead to one
that has the same truth value or the same failure for every candidate.

So let a query be run on the persons of a file or on generated ones.  If the file cannot be loaded,
this is reported whatever strategies are chosen.  Otherwise a run with methods alone reports the
same as one with the standard strategies.  If these lead to a query, what is shown is what it
selects, behind its explanation if that is asked for, and with fields alone the same is shown if
they lead to a query, too. -/
theorem BoundQuery.staff_strategies [Engine] :
    (∀ (type : StaffType) (text : String) (earlier earlier' : List (StaffType × String)),
      type.ask [Strategy.methods] earlier text = type.ask Strategy.standard earlier' text ∧
      ∀ query, type.ask [Strategy.fields] earlier text = .ok query →
        ∃ query', type.ask Strategy.standard earlier' text = .ok query' ∧
          ∀ candidate, query.evaluate candidate = query'.evaluate candidate) ∧
    ∀ [Codec] [Randomness] (options : CommandLine.Options) (files : Files),
      let run (choice : CommandLine.StrategyChoice) : CommandLine.Report :=
        CommandLine.Options.run { options with strategy := choice } files
      (∀ path error, options.input = some path → loadPeople files path = .error error →
        ∀ choice, run choice = ⟨[], some (.loading error)⟩) ∧
      ∀ people, options.Finds files people →
        run .property = run .auto ∧
        (∀ error, StaffType.person.ask Strategy.standard [] options.query = .error error →
          run .auto = ⟨[], some (.building options.query error)⟩) ∧
        ∀ query, StaffType.person.ask Strategy.standard [] options.query = .ok query →
          ∃ shown, CommandLine.Report.Shows options.countOnly (query.select people) shown ∧
            run .auto = shown.behind (options.explained query) ∧
            ∀ query', StaffType.person.ask [Strategy.fields] [] options.query = .ok query' →
              run .field = shown.behind (options.explained query') := by
  have methods (type : StaffType) (text : String) (earlier earlier' : List (StaffType × String)) :
      type.ask [Strategy.methods] earlier text = type.ask Strategy.standard earlier' text := by
    rw [type.ask_eq, type.ask_eq, type.ofTextWith_standard]
  have fields (type : StaffType) (text : String) (earlier earlier' : List (StaffType × String))
      {query : BoundQuery Staff type}
      (bound : type.ask [Strategy.fields] earlier text = .ok query) :
      ∃ query', type.ask Strategy.standard earlier' text = .ok query' ∧ query.Agrees query' := by
    rw [type.ask_eq] at bound ⊢
    exact type.exists_agrees_standard text bound
  refine ⟨fun type text earlier earlier' => ⟨methods .., fun query bound => ?_⟩,
    fun {_ _} options files => ⟨fun _ _ given missing _ => CommandLine.run_of_missing given missing,
      fun people found => ⟨CommandLine.run_congr found (methods ..),
        fun error unbound => CommandLine.run_of_unbound found unbound, fun query bound => ?_⟩⟩⟩
  · obtain ⟨query', bound', agrees⟩ := fields type text earlier earlier' bound
    exact ⟨query', bound', agrees.evaluate_eq⟩
  · refine ⟨_, CommandLine.shows_selectionReport _ _, CommandLine.run_of_bound found bound,
      fun query' bound' => ?_⟩
    obtain ⟨_, same, agrees⟩ := fields .person options.query [] [] bound'
    obtain rfl := Except.ok.inj (same.symm.trans bound)
    rw [← agrees.select_eq people]
    exact CommandLine.run_of_bound found bound'

/-- Fields find the number of employees and the ages of two generated persons as the standard
strategies do, and the run shows both of them. -/
theorem BoundQuery.staff_strategies_generated :
    let options : CommandLine.Options := { query := "age < 18", generate := 2 }
    let run (choice : CommandLine.StrategyChoice) : CommandLine.Report :=
      @CommandLine.Options.run Engine.direct Codec.direct Randomness.first
        { options with strategy := choice } .error
    (∃ query query', @StaffType.ask Engine.direct .employee [Strategy.fields]
        [(.person, "age < 18")] "employeeId = 7" = .ok query ∧
      @StaffType.ask Engine.direct .employee Strategy.standard [] "employeeId = 7" = .ok query' ∧
      ∀ candidate, @evaluate _ _ _ _ Engine.direct query candidate =
        @evaluate _ _ _ _ Engine.direct query' candidate) ∧
    run .property = run .auto ∧ run .field = run .auto ∧
    (run .auto).failure.isNone = true ∧
    (run .auto).lines = List.replicate 2 ("\x7b\"name\":\"alice\",\"age\":0," ++
      "\"gender\":\"FEMALE\",\"firedNearRetirement\":false\x7d") := by
  intro options run
  obtain ⟨queries, runs⟩ := @staff_strategies Engine.direct
  obtain ⟨query, byFields⟩ := exists_ok_of_isOk (by decide +kernel :
    (@StaffType.ask Engine.direct .employee [Strategy.fields] [(.person, "age < 18")]
      "employeeId = 7").isOk = true)
  obtain ⟨query', byDefault, agree⟩ := (queries .employee _ _ []).2 query byFields
  obtain ⟨-, found⟩ := @runs Codec.direct Randomness.first options .error
  obtain ⟨property, -, bound⟩ := found _
    (@CommandLine.Options.Finds.generated Codec.direct Randomness.first options .error rfl)
  obtain ⟨young, youngByDefault⟩ := exists_ok_of_isOk (by decide +kernel :
    (@StaffType.ask Engine.direct .person Strategy.standard [] options.query).isOk = true)
  obtain ⟨young', youngByFields⟩ := exists_ok_of_isOk (by decide +kernel :
    (@StaffType.ask Engine.direct .person [Strategy.fields] [] options.query).isOk = true)
  obtain ⟨shown, -, auto, field⟩ := bound young youngByDefault
  exact ⟨⟨query, query', byFields, byDefault, agree⟩, property,
    (field young' youngByFields).trans auto.symm, by decide +kernel, by decide +kernel⟩

end Sift
