import Sift.CommandLine.Arguments
import Sift.CommandLine.Help

/-!
# The program as a function

What the program writes and the code it exits with are a function of its arguments and of the files
it can read.  The report of a run becomes text here: the lines go to the output, and a failure to
the errors, with the errors below it under a headline of their own.
-/

namespace Sift.CommandLine

/-- What the program writes, and the code it exits with. -/
structure Answer where
  code : Nat
  output : String
  error : Option String
  deriving DecidableEq, Repr

/-- Lines as they are written. -/
def linesText (lines : List String) : String :=
  String.join (lines.map (· ++ "\n"))

/-- A failure as it is written. -/
def Failure.text (failure : Failure) : String :=
  let causeLines := match failure.causes with
    | [] => []
    | [cause] => ["", "Caused by:", "    " ++ cause]
    | causes =>
      "" :: "Caused by:" :: causes.zipIdx.map fun (cause, position) =>
        "    " ++ toString position ++ ": " ++ cause
  "\n".intercalate (("Error: " ++ failure.headline) :: causeLines)

/-- The answer that gives a report. -/
def Report.answer (report : Report) : Answer where
  code := if report.failure.isSome then 1 else 0
  output := linesText report.lines
  error := report.failure.map Failure.text

variable [Engine] [Codec] [Randomness] (files : Files)

/-- The answer to a request. -/
def Request.answer : Request → Answer
  | run options => (options.run files).answer
  | help long => ⟨0, linesText (helpLines long), none⟩
  | version => ⟨0, linesText [versionLine], none⟩

/-- The answer to arguments. -/
def answer (arguments : List String) : Answer :=
  match Request.ofArguments? arguments with
  | some request => request.answer files
  | none => ⟨2, "", some "error: the arguments are not understood"⟩

/-! ## Random choices -/

/-- The generator of the standard library as a source of random choices. -/
@[reducible]
def generator : Randomness where
  Source := StdGen
  seeded seed := mkStdGen seed.toNat
  chance probability source :=
    let (n, source) := randNat source 0 (Nat.pow 2 53 - 1)
    (Float.ofScientific n false 0 / Float.ofScientific (Nat.pow 2 53) false 0 < probability, source)
  position count nonempty source :=
    let (n, source) := randNat source 0 (count - 1)
    (⟨n % count, Nat.mod_lt n nonempty⟩, source)
  integer low high nonempty source :=
    let (n, source) := randNat source 0 (high.toInt - low.toInt - 1).toNat
    let drawn := Int32.ofInt (low.toInt + n)
    (if bounds : low ≤ drawn ∧ drawn < high then ⟨drawn, bounds⟩
      else ⟨low, Randomness.low_within nonempty⟩, source)

end Sift.CommandLine
