import Sift.CommandLine.Run
import Sift.Number.Decimal

/-!
# Command line arguments

Arguments are read from left to right.  A long option stands behind two hyphens and a short one is
a letter behind one; short ones may be joined.  An option that takes a value has it attached, with
or without an equals sign behind a letter and with one behind a name, or finds it in the next
argument, which then must not begin with a hyphen unless it is nothing else.  No option may be
given twice, and there is nothing but options.

The first request for help or for the version ends the reading.  Otherwise the query is needed, and
all that is not given has a default.
-/

namespace Sift.CommandLine

/-! ## Options -/

/-- The options that take a value. -/
inductive Setting where
  | query
  | input
  | generate
  | seed
  | strategy
  deriving DecidableEq, Repr

/-- The options that do not. -/
inductive Switch where
  | explain
  | countOnly
  | debug
  | help
  | version
  deriving DecidableEq, Repr

/-- Any option. -/
inductive Name where
  | setting (setting : Setting)
  | switch (switch : Switch)
  deriving DecidableEq, Repr

/-- The option of a long name. -/
def Name.ofLong? : String → Option Name
  | "query" => some (.setting .query)
  | "input" => some (.setting .input)
  | "generate" => some (.setting .generate)
  | "seed" => some (.setting .seed)
  | "strategy" => some (.setting .strategy)
  | "explain" => some (.switch .explain)
  | "count-only" => some (.switch .countOnly)
  | "debug" => some (.switch .debug)
  | "help" => some (.switch .help)
  | "version" => some (.switch .version)
  | _ => none

/-- The option of a letter. -/
def Name.ofLetter? : Char → Option Name
  | 'q' => some (.setting .query)
  | 'i' => some (.setting .input)
  | 'g' => some (.setting .generate)
  | 's' => some (.setting .seed)
  | 'e' => some (.switch .explain)
  | 'c' => some (.switch .countOnly)
  | 'd' => some (.switch .debug)
  | 'h' => some (.switch .help)
  | 'V' => some (.switch .version)
  | _ => none

/-! ## Values -/

/-- The choice of a name. -/
def StrategyChoice.ofName? : String → Option StrategyChoice
  | "auto" => some auto
  | "property" => some property
  | "field" => some field
  | _ => none

/-- The number of 64 bits that a text without a minus sign spells. -/
def count? (text : String) : Option Nat :=
  let digits := match text.toList with
    | '+' :: digits => digits
    | digits => digits
  let count := Number.valueOf digits
  if Number.isDigits digits && count < Nat.pow 2 64 then some count else none

/-- What the options say so far. -/
structure Given where
  query : Option String := none
  input : Option String := none
  generate : Option Nat := none
  seed : Option UInt64 := none
  strategy : Option StrategyChoice := none
  seen : List Name := []

/-- Note that an option is there, unless it was there before. -/
def Given.note (given : Given) (name : Name) : Option Given :=
  if given.seen.contains name then none else some { given with seen := name :: given.seen }

/-- Give a value to an option, if it takes this one. -/
def Given.set (given : Given) (setting : Setting) (value : String) : Option Given :=
  (given.note (.setting setting)).bind fun given =>
    match setting with
    | .query => some { given with query := some value }
    | .input => if value.isEmpty then none else some { given with input := some value }
    | .generate => (count? value).map fun count => { given with generate := some count }
    | .seed => (count? value).map fun seed => { given with seed := some (.ofNat seed) }
    | .strategy =>
      (StrategyChoice.ofName? value).map fun choice => { given with strategy := some choice }

/-! ## Requests -/

/-- What is asked of the program. -/
inductive Request where
  | run (options : Options)
  | help (long : Bool)
  | version
  deriving DecidableEq, Repr

/-- The request that options amount to at the end. -/
def Given.request (given : Given) : Option Request :=
  given.query.map fun query =>
    let defaults : Options := { query }
    .run {
      query
      input := given.input
      generate := given.generate.getD defaults.generate
      seed := given.seed.getD defaults.seed
      strategy := given.strategy.getD defaults.strategy
      explain := given.seen.contains (.switch .explain)
      countOnly := given.seen.contains (.switch .countOnly) }

/-- Where reading stands behind an argument. -/
inductive Progress where
  | next (given : Given)
  | awaiting (given : Given) (setting : Setting)
  | done (request : Request)

/-- Turn a switch on, or end with what it asks for. -/
def Given.turnOn (given : Given) (switch : Switch) (long : Bool) : Option Progress :=
  match switch with
  | .help => some (.done (.help long))
  | .version => some (.done .version)
  | switch => (given.note (.switch switch)).map .next

/-- Read joined letters, the last of which may take a value. -/
def readLetters (given : Given) : List Char → Option Progress
  | [] => some (.next given)
  | letter :: rest =>
    match Name.ofLetter? letter with
    | none => none
    | some (.setting setting) =>
      match rest with
      | [] => some (.awaiting given setting)
      | '=' :: value => (given.set setting (String.ofList value)).map .next
      | value => (given.set setting (String.ofList value)).map .next
    | some (.switch switch) =>
      match given.turnOn switch false with
      | some (.next given) => readLetters given rest
      | outcome => outcome

/-- Read a long name, and the value behind an equals sign. -/
def readLong (given : Given) (text : List Char) : Option Progress :=
  let (name, value) := text.span (· != '=')
  match Name.ofLong? (String.ofList name), value with
  | some (.setting setting), [] => some (.awaiting given setting)
  | some (.setting setting), _ :: value => (given.set setting (String.ofList value)).map .next
  | some (.switch switch), [] => given.turnOn switch true
  | some (.switch _), _ :: _ => none
  | none, _ => none

/-- Whether an argument looks like options, so that it is no value. -/
def looksLikeOptions (argument : String) : Bool :=
  match argument.toList with
  | '-' :: _ :: _ => true
  | _ => false

/-- Read arguments, the first of which may be the value of a setting. -/
def readArguments (given : Given) : (awaited : Option Setting) → List String → Option Request
  | some _, [] => none
  | some setting, value :: rest =>
    if looksLikeOptions value then none
    else
      match given.set setting value with
      | some given => readArguments given none rest
      | none => none
  | none, [] => given.request
  | none, argument :: rest =>
    let progress : Option Progress := match argument.toList with
      | ['-', '-'] => if rest.isEmpty then some (.next given) else none
      | '-' :: '-' :: name => readLong given name
      | '-' :: letter :: letters => readLetters given (letter :: letters)
      | _ => none
    match progress with
    | some (.next given) => readArguments given none rest
    | some (.awaiting given setting) => readArguments given (some setting) rest
    | some (.done request) => some request
    | none => none

/-- The request that arguments make. -/
def Request.ofArguments? (arguments : List String) : Option Request :=
  readArguments {} none arguments

end Sift.CommandLine
