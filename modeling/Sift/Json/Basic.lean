/-!
# JSON documents

A document is kept as it is spelt, not as it is meant: a string is a list of characters and of the
code units that were escaped, a number is its digits, and an object keeps its members in order with
all repetitions.  So a part of a document that nobody asks for never has to make sense, and whoever
asks for a part says what sense it has to make (`textOf`, `Numeral.integer?`, `Numeral.float?`).

Strings that come from elsewhere are spelt by `spelling`, which escapes what has to be.
-/

namespace Sift.Json

/-- A piece of a string: a character, or a UTF-16 code unit that was escaped by number. -/
inductive Piece where
  | char (c : Char)
  | unit (code : Nat)
  deriving DecidableEq, Repr

/-- A number as it is spelt; an empty fraction stands for no point. -/
structure Numeral where
  isNegative : Bool
  whole : List Char
  fraction : List Char
  exponent : Option (Bool × List Char)
  deriving DecidableEq, Repr

end Json

/-- A JSON document. -/
inductive Json where
  | null
  | boolean (b : Bool)
  | number (spelling : Json.Numeral)
  | string (content : List Json.Piece)
  | array (items : List Json)
  | object (members : List (List Json.Piece × Json))

namespace Json

/-! ## Strings -/

/-- Whether a code unit is the first half of a pair. -/
def isLeading (code : Nat) : Bool :=
  0xD800 ≤ code && code < 0xDC00

/-- Whether a code unit is the second half of a pair. -/
def isTrailing (code : Nat) : Bool :=
  0xDC00 ≤ code && code < 0xE000

/-- The character that a pair of code units stands for. -/
def paired (leading trailing : Nat) : Char :=
  Char.ofNat (0x10000 + (leading - 0xD800) * 0x400 + (trailing - 0xDC00))

/-- The characters that pieces stand for.  Half of a pair alone stands for nothing. -/
def characters : List Piece → Option (List Char)
  | [] => some []
  | .char c :: rest => (characters rest).map (c :: ·)
  | .unit leading :: .unit trailing :: rest =>
    if isLeading leading then
      if isTrailing trailing then (characters rest).map (paired leading trailing :: ·) else none
    else if isTrailing leading then none
    else (characters (.unit trailing :: rest)).map (Char.ofNat leading :: ·)
  | .unit code :: rest =>
    if isLeading code || isTrailing code then none
    else (characters rest).map (Char.ofNat code :: ·)

/-- The text that pieces stand for. -/
def textOf (content : List Piece) : Option String :=
  (characters content).map String.ofList

/-- The letter that stands for a control character after a backslash. -/
def controlLetter? (c : Char) : Option Char :=
  if c = '\n' then some 'n'
  else if c = '\t' then some 't'
  else if c = '\r' then some 'r'
  else if c.toNat = 0x08 then some 'b'
  else if c.toNat = 0x0C then some 'f'
  else none

/-- The spelling of a character: a control without a letter is escaped by number. -/
def spelled (c : Char) : Piece :=
  if c.toNat < 0x20 ∧ controlLetter? c = none then .unit c.toNat else .char c

/-- The spelling of a text. -/
def spelling (text : String) : List Piece :=
  text.toList.map spelled

/-- A code unit that is no half of a pair is read on its own. -/
theorem characters_unit {code : Nat} (single : code < 0xD800) (rest : List Piece) :
    characters (.unit code :: rest) = (characters rest).map (Char.ofNat code :: ·) := by
  have leading : isLeading code = false := by simp [isLeading]; omega
  have trailing : isTrailing code = false := by simp [isTrailing]; omega
  match rest with
  | [] => simp [characters, leading, trailing]
  | .char c :: rest => simp [characters, leading, trailing]
  | .unit next :: rest => simp [characters, leading, trailing]

/-- A spelt character is read as that character. -/
theorem characters_spelled (c : Char) (rest : List Piece) :
    characters (spelled c :: rest) = (characters rest).map (c :: ·) := by
  by_cases control : c.toNat < 0x20 ∧ controlLetter? c = none
  · rw [spelled, if_pos control, characters_unit (by omega), Char.ofNat_toNat]
  · rw [spelled, if_neg control, characters]

/-- A spelling stands for the text it spells. -/
theorem textOf_spelling (text : String) : textOf (spelling text) = some text := by
  have spelt : ∀ letters : List Char, characters (letters.map spelled) = some letters := by
    intro letters
    induction letters with
    | nil => rfl
    | cons c rest inductionHypothesis =>
      rw [List.map_cons, characters_spelled, inductionHypothesis, Option.map_some]
  rw [textOf, spelling, spelt, Option.map_some, String.ofList_toList]

end Sift.Json
