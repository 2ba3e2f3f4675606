/-!
# Help

The help lists the options, in a short form with one line for each and in a long form with a
paragraph for each.  Both are laid out from one list.
-/

namespace Sift.CommandLine

/-- What the help says about an option. -/
structure Entry where
  letter : Option Char
  name : String
  value : Option String
  purpose : String
  default : Option String := none
  choices : List (String × String) := []

/-- The entries of the help, apart from that on the help itself. -/
def entries : List Entry := [
  { letter := some 'q', name := "query", value := some "QUERY",
    purpose := "Predicate to evaluate, e.g. \"age >= 50 AND name LIKE '_ob'\"" },
  { letter := some 'i', name := "input", value := some "INPUT",
    purpose := "JSON file holding an array of people" },
  { letter := some 'g', name := "generate", value := some "GENERATE",
    purpose := "Number of people to generate when no input file is given", default := some "20" },
  { letter := some 's', name := "seed", value := some "SEED",
    purpose := "Seed for generated people", default := some "0" },
  { letter := none, name := "strategy", value := some "STRATEGY",
    purpose := "Accessor strategy used to bind identifiers", default := some "auto",
    choices := [("auto", "Accessor methods first, then fields"),
      ("property", "Accessor methods only"), ("field", "Fields only")] },
  { letter := some 'e', name := "explain", value := none,
    purpose := "Print the expression tree and the bound accessors" },
  { letter := some 'c', name := "count-only", value := none,
    purpose := "Only print the number of matches" },
  { letter := some 'd', name := "debug", value := none, purpose := "Enable debug logging" }]

/-- The entries on the help itself and on the version. -/
def closingEntries (long : Bool) : List Entry := [
  { letter := some 'h', name := "help", value := none,
    purpose := if long then "Print help (see a summary with '-h')"
      else "Print help (see more with '--help')" },
  { letter := some 'V', name := "version", value := none, purpose := "Print version" }]

/-- Some blanks. -/
def blanks (count : Nat) : String :=
  String.ofList (List.replicate count ' ')

namespace Entry

/-- The option as it is given. -/
def usage (entry : Entry) : String :=
  (match entry.letter with
    | some letter => "-" ++ letter.toString ++ ", "
    | none => "    ") ++
  "--" ++ entry.name ++
  match entry.value with
  | some value => " <" ++ value ++ ">"
  | none => ""

/-- The remark on the default. -/
def defaultRemark (entry : Entry) : List String :=
  match entry.default with
  | some value => ["[default: " ++ value ++ "]"]
  | none => []

/-- The remark on the choices. -/
def choicesRemark (entry : Entry) : List String :=
  if entry.choices.isEmpty then []
  else ["[possible values: " ++ ", ".intercalate (entry.choices.map Prod.fst) ++ "]"]

/-- The entry in one line, with its purpose behind a column of this width. -/
def line (width : Nat) (entry : Entry) : String :=
  "  " ++ entry.usage ++ blanks (width - entry.usage.length) ++ "  " ++
    " ".intercalate (entry.purpose :: (entry.defaultRemark ++ entry.choicesRemark))

/-- The choices in lines of their own. -/
def choiceLines (entry : Entry) : List String :=
  let width := (entry.choices.map fun choice => choice.1.length).foldr max 0
  entry.choices.map fun (name, purpose) =>
    blanks 10 ++ "- " ++ name ++ ": " ++ blanks (width - name.length) ++ purpose

/-- The entry as a paragraph. -/
def paragraph (entry : Entry) : List String :=
  ["  " ++ entry.usage, blanks 10 ++ entry.purpose] ++
    (if entry.choices.isEmpty then []
      else "" :: (blanks 10 ++ "Possible values:") :: entry.choiceLines) ++
    entry.defaultRemark.flatMap fun remark => ["", blanks 10 ++ remark]

end Entry

/-- The lines of the help. -/
def helpLines (long : Bool) : List String :=
  let all := entries ++ closingEntries long
  let width := (all.map fun entry => entry.usage.length).foldr max 0
  ["objql - filter people with a SQL-like predicate", "",
    "Usage: objql [OPTIONS] --query <QUERY>", "", "Options:"] ++
    if long then [""].intercalate (all.map Entry.paragraph) else all.map (Entry.line width)

/-- The name and the version of the program. -/
def versionLine : String := "objql 0.1.0"

end Sift.CommandLine
