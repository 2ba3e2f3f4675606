import Sift.CommandLine.Program
import Sift.Pattern.Matching
import Sift.Staff.Document

/-!
# The program

The outermost layer reads the file that the arguments name, and writes the answer.  It is here that
the engine of regular expressions, the codec and the source of random choices are chosen.
-/

open Sift.CommandLine

/-- What can be read as text under a path, or why nothing can. -/
def readContents (path : String) : IO (Except String String) := do
  try
    return .ok (← IO.FS.readFile path)
  catch error =>
    return .error (toString error)

/-- Answer the arguments. -/
def main (arguments : List String) : IO UInt32 := do
  let contents ← match Request.ofArguments? arguments with
    | some (.run { input := some path, .. }) => readContents path
    | _ => pure (.error "nothing is read")
  let answer :=
    @answer Sift.Engine.direct Sift.Codec.direct generator (fun _ => contents) arguments
  IO.print answer.output
  match answer.error with
  | some error => IO.eprintln error
  | none => pure ()
  return UInt32.ofNat answer.code
