import Sift.Pattern.Engine

/-!
# An engine for the expressions of patterns

The regular expressions of patterns are made of few constructs: the anchors at both ends, the dot,
its lazy repetition, and characters, which stand for themselves or are written by code point.  The
engine reads an expression as a sequence of such constructs and refuses any other expression.

Whether a sequence of constructs is found in a text is decided without backtracking.  The engine
works from the last construct to the first and keeps one flag for every suffix of the text: whether
the constructs seen so far match where that suffix begins.  Each construct turns one row of flags
into the next, so the work is the product of the two lengths whatever the expression.
-/

namespace Sift.Pattern

/-- What an expression of a pattern is made of. -/
inductive Construct where
  | start
  | finish
  | dot
  | run
  | char (c : Char)
  deriving DecidableEq, Repr

namespace Construct

/-! ## Reading expressions -/

/-- The characters that are no construct on their own. -/
def metaChars : List Char :=
  "\\.+*?()|[]\x7b\x7d^$".toList

/-- The value of a hexadecimal digit. -/
def hexDigit? (c : Char) : Option Nat :=
  if '0' ≤ c ∧ c ≤ '9' then some (c.toNat - '0'.toNat)
  else if 'a' ≤ c ∧ c ≤ 'f' then some (c.toNat - 'a'.toNat + 10)
  else if 'A' ≤ c ∧ c ≤ 'F' then some (c.toNat - 'A'.toNat + 10)
  else none

/-- The number that hexadecimal digits continue. -/
def hexValue? (value : Nat) : List Char → Option Nat
  | [] => some value
  | digit :: rest => (hexDigit? digit).bind fun digit => hexValue? (16 * value + digit) rest

/-- The character of a code point in hexadecimal digits. -/
def byCode? (digits : List Char) : Option Char :=
  if digits.isEmpty then none
  else (hexValue? 0 digits).bind fun code =>
    if code.isValidChar then some (Char.ofNat code) else none

/-- The first construct of an expression, and what stands behind it. -/
def next? : List Char → Option (Construct × List Char)
  | '\\' :: 'A' :: rest => some (.start, rest)
  | '\\' :: 'z' :: rest => some (.finish, rest)
  | '\\' :: 'x' :: '\x7b' :: rest =>
    match rest.dropWhile (· != '\x7d') with
    | _ :: behind => (byCode? (rest.takeWhile (· != '\x7d'))).map fun c => (.char c, behind)
    | [] => none
  | '.' :: '*' :: '?' :: rest => some (.run, rest)
  | '.' :: rest => some (.dot, rest)
  | c :: rest => if metaChars.contains c then none else some (.char c, rest)
  | [] => none

/-- The constructs of an expression. -/
def read? (expression : List Char) : Option (List Construct) :=
  match next? expression with
  | none => if expression.isEmpty then some [] else none
  | some (construct, rest) =>
    if rest.length < expression.length then (read? rest).map (construct :: ·) else none
termination_by expression.length

/-! ## Rows of flags -/

/-- The row for one more character in front, accepted by `accept`. -/
def charRow (accept : Char → Bool) : List Char → List Bool → List Bool
  | c :: rest, _ :: flags => (accept c && flags.headD false) :: charRow accept rest flags
  | _, _ => [false]

/-- The row for a run of characters in front, each accepted by `accept`: a suffix is matched when it
or one that such characters lead to was matched before. -/
def runRow (accept : Char → Bool) : List Char → List Bool → List Bool
  | c :: rest, flag :: flags =>
    let later := runRow accept rest flags
    (flag || accept c && later.headD false) :: later
  | _, flags => flags

/-- The row for the anchor at the start: only the whole text may be matched. -/
def startRow : List Bool → List Bool
  | [] => []
  | flag :: flags => flag :: flags.map fun _ => false

/-- The row for the anchor at the end: only the empty suffix may be matched. -/
def finishRow : List Bool → List Bool
  | [] => []
  | [flag] => [flag]
  | _ :: flags => false :: finishRow flags

/-- Whether a dot matches a character. -/
def dotAccepts (dotMatchesNewLine : Bool) (c : Char) : Bool :=
  dotMatchesNewLine || c != '\n'

/-- The row for one more construct in front. -/
def row (construct : Construct) (dotMatchesNewLine : Bool) (text : List Char) (flags : List Bool) :
    List Bool :=
  match construct with
  | .start => startRow flags
  | .finish => finishRow flags
  | .dot => charRow (dotAccepts dotMatchesNewLine) text flags
  | .run => runRow (dotAccepts dotMatchesNewLine) text flags
  | .char c => charRow (· == c) text flags

/-- The flags of all suffixes of a text, the longest first.  No constructs match everywhere. -/
def rows (dotMatchesNewLine : Bool) (constructs : List Construct) (text : List Char) : List Bool :=
  constructs.foldr (fun construct flags => construct.row dotMatchesNewLine text flags)
    (true :: text.map fun _ => true)

/-- Whether constructs are found somewhere in a text. -/
def finds (dotMatchesNewLine : Bool) (constructs : List Construct) (text : List Char) : Bool :=
  (rows dotMatchesNewLine constructs text).any id

/-- The test of texts that an expression of constructs stands for. -/
def compile (dotMatchesNewLine : Bool) (expression : String) : Except String (String → Bool) :=
  match read? expression.toList with
  | some constructs => .ok fun text => finds dotMatchesNewLine constructs text.toList
  | none => .error "the expression has a construct that patterns do not use"

end Construct

end Sift.Pattern

/-- The engine for expressions of the constructs of patterns. -/
@[reducible] def Sift.Engine.direct : Sift.Engine where
  compile := Sift.Pattern.Construct.compile
