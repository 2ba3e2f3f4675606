import Sift.Expression.Dump
import Sift.Query.Selection
import Sift.Staff.Generation
import Sift.Staff.Loading

/-!
# Running a query on persons

The persons in a file are loaded, or some are generated if no file is given.  The query is bound to
their type, and the records of the persons it selects are written one to a line, or only their
number.  On demand the tree of the query and the accessors of its properties are written first.  A
failure ends the run; what was written before stays.
-/

namespace Sift.CommandLine

/-! ## Options -/

/-- Which strategies find the accessors. -/
inductive StrategyChoice where
  | auto
  | property
  | field
  deriving DecidableEq, Repr

namespace StrategyChoice

/-- The strategies of a choice. -/
def strategies : StrategyChoice → List (Strategy Staff)
  | auto => Strategy.standard
  | property => (Strategy.named? "property").toList
  | field => (Strategy.named? "field").toList

/-- The resolver of a choice. -/
def resolver (choice : StrategyChoice) : Resolver Staff :=
  .ofStrategies choice.strategies

end StrategyChoice

/-- How a query is to be run. -/
structure Options where
  query : String
  input : Option String := none
  generate : Nat := 20
  seed : UInt64 := 0
  strategy : StrategyChoice := .auto
  explain : Bool := false
  countOnly : Bool := false
  deriving DecidableEq, Repr

/-! ## Reports -/

/-- What ends a run early. -/
inductive Failure where
  | loading (error : LoadError)
  | building (query : String) (error : QueryError)
  | selecting (error : QueryError)
  | writing (message : String)

namespace Failure

/-- The text of a failure. -/
def headline : Failure → String
  | loading error => error.message
  | building query _ => "Failed to build query '" ++ query ++ "'"
  | selecting _ => "Query evaluation failed"
  | writing message => message

/-- The errors below a failure. -/
def causes : Failure → List String
  | loading error => error.causes
  | building _ error | selecting error => error.message :: error.causes
  | writing _ => []

end Failure

/-- The lines that a run writes, and the failure that ends it if there is one. -/
structure Report where
  lines : List String := []
  failure : Option Failure := none

/-- A report behind lines that were written before. -/
def Report.behind (lines : List String) (report : Report) : Report :=
  { report with lines := lines ++ report.lines }

/-! ## Runs -/

/-- The lines that explain a query. -/
def explanation (query : BoundQuery Staff .person) : List String :=
  query.expression.dump :: query.accessors.map fun (name, getter) =>
    "  " ++ name ++ " -> " ++ getter.describe ++ " [" ++ getter.kind.name ++ "]"

/-- The report of writing records.  The first person without a record ends it. -/
def recordsReport [Codec] : List Person → Report
  | [] => {}
  | person :: rest =>
    match Codec.encode person with
    | .error message => { failure := some (.writing message) }
    | .ok record => (recordsReport rest).behind [record]

/-- The report on a selection. -/
def selectionReport [Codec] (countOnly : Bool) : Except QueryError (List Person) → Report
  | .error error => { failure := some (.selecting error) }
  | .ok selected =>
    if countOnly then { lines := [toString selected.length] } else recordsReport selected

/-- The lines that stand before a selection. -/
def Options.explained (options : Options) (query : BoundQuery Staff .person) : List String :=
  if options.explain then explanation query else []

/-- Run a query on persons. -/
def runQuery [Engine] [Codec] (options : Options) (people : List Person) : Report :=
  match (BoundQuery.ofText options.strategy.resolver Person.descriptor options.query).2 with
  | .error error => { failure := some (.building options.query error) }
  | .ok query =>
    (selectionReport options.countOnly (query.select people)).behind (options.explained query)

namespace Options

/-- The persons that a query is run on. -/
def people [Codec] [Randomness] (options : Options) (files : Files) :
    Except LoadError (List Person) :=
  match options.input with
  | some path => loadPeople files path
  | none => .ok (generatePeople options.generate options.seed)

/-- Run with options where files can be read. -/
def run [Engine] [Codec] [Randomness] (options : Options) (files : Files) : Report :=
  match options.people files with
  | .error error => { failure := some (.loading error) }
  | .ok people => runQuery options people

end Options

end Sift.CommandLine
