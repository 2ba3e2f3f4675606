import Sift.Json.Basic

/-!
# Reading a document

A text is a document if it is a value with blanks around it.  Blanks are the space and the three
controls of a line; a string must not contain a control character as it is; a number has no
superfluous zero in front, and digits on both sides of its point.

Values nest without limit, so the functions that read them count down a number of steps.  Each
nested value and each further item costs at least one character, and two functions share the work,
so twice as many steps as there are characters are always enough.
-/

namespace Sift.Json

/-- The blanks of a document. -/
def isBlank (c : Char) : Bool :=
  c == ' ' || c == '\n' || c == '\t' || c == '\r'

/-- The text behind blanks. -/
def skipBlanks (text : List Char) : List Char :=
  text.dropWhile isBlank

/-! ## Strings -/

/-- The value of a hexadecimal digit of either case. -/
def hexValue? (c : Char) : Option Nat :=
  if c.isDigit then some (c.toNat - '0'.toNat)
  else if 'a' ≤ c && c ≤ 'f' then some (c.toNat - 'a'.toNat + 10)
  else if 'A' ≤ c && c ≤ 'F' then some (c.toNat - 'A'.toNat + 10)
  else none

/-- The code unit of four hexadecimal digits. -/
def unitOf? (a b c d : Char) : Option Nat :=
  match hexValue? a, hexValue? b, hexValue? c, hexValue? d with
  | some a, some b, some c, some d => some (((a * 16 + b) * 16 + c) * 16 + d)
  | _, _, _, _ => none

/-- The character that a letter or mark after a backslash stands for. -/
def escaped? (c : Char) : Option Char :=
  match c with
  | '"' => some '"'
  | '\\' => some '\\'
  | '/' => some '/'
  | 'b' => some '\x08'
  | 'f' => some '\x0c'
  | 'n' => some '\n'
  | 'r' => some '\r'
  | 't' => some '\t'
  | _ => none

/-- Put a piece before those that are read later. -/
def followedBy (piece : Piece) (later : Option (List Piece × List Char)) :
    Option (List Piece × List Char) :=
  later.map fun (content, rest) => (piece :: content, rest)

/-- Read a string behind its opening mark. -/
def readString : List Char → Option (List Piece × List Char)
  | [] => none
  | '"' :: rest => some ([], rest)
  | '\\' :: 'u' :: a :: b :: c :: d :: rest =>
    match unitOf? a b c d with
    | some code => followedBy (.unit code) (readString rest)
    | none => none
  | '\\' :: c :: rest =>
    match escaped? c with
    | some c => followedBy (.char c) (readString rest)
    | none => none
  | c :: rest =>
    if c == '\\' || c.toNat < 0x20 then none else followedBy (.char c) (readString rest)

/-! ## Numbers -/

/-- Read at least one digit. -/
def readDigits (text : List Char) : Option (List Char × List Char) :=
  let (digits, rest) := text.span Char.isDigit
  if digits.isEmpty then none else some (digits, rest)

/-- Read a point and the digits behind it, if there is a point. -/
def readFraction : List Char → Option (List Char × List Char)
  | '.' :: rest => readDigits rest
  | text => some ([], text)

/-- Split off the sign of an exponent; true is negative. -/
def exponentSign : List Char → Bool × List Char
  | '+' :: rest => (false, rest)
  | '-' :: rest => (true, rest)
  | text => (false, text)

/-- Read an exponent, if there is one. -/
def readExponent : List Char → Option (Option (Bool × List Char) × List Char)
  | [] => some (none, [])
  | mark :: rest =>
    if mark == 'e' || mark == 'E' then
      let (isNegative, rest) := exponentSign rest
      (readDigits rest).map fun (digits, rest) => (some (isNegative, digits), rest)
    else some (none, mark :: rest)

/-- Whether the digits before the point begin with a zero that is not the only one. -/
def hasLeadingZero : List Char → Bool
  | '0' :: _ :: _ => true
  | _ => false

/-- Read a number behind its sign. -/
def readUnsigned (isNegative : Bool) (text : List Char) : Option (Numeral × List Char) :=
  match readDigits text with
  | none => none
  | some (whole, rest) =>
    if hasLeadingZero whole then none
    else
      match readFraction rest with
      | none => none
      | some (fraction, rest) =>
        (readExponent rest).map fun (exponent, rest) =>
          (⟨isNegative, whole, fraction, exponent⟩, rest)

/-- Read a number. -/
def readNumber : List Char → Option (Numeral × List Char)
  | '-' :: rest => readUnsigned true rest
  | text => readUnsigned false text

/-! ## Values -/

mutual
/-- Read a value. -/
def readValue : (steps : Nat) → List Char → Option (Json × List Char)
  | 0, _ => none
  | steps + 1, text =>
    match text with
    | 'n' :: 'u' :: 'l' :: 'l' :: rest => some (.null, rest)
    | 't' :: 'r' :: 'u' :: 'e' :: rest => some (.boolean true, rest)
    | 'f' :: 'a' :: 'l' :: 's' :: 'e' :: rest => some (.boolean false, rest)
    | '"' :: rest => (readString rest).map fun (content, rest) => (.string content, rest)
    | '[' :: rest =>
      match skipBlanks rest with
      | ']' :: rest => some (.array [], rest)
      | rest => (readItems steps rest).map fun (items, rest) => (.array items, rest)
    | '\x7b' :: rest =>
      match skipBlanks rest with
      | '\x7d' :: rest => some (.object [], rest)
      | rest => (readMembers steps rest).map fun (members, rest) => (.object members, rest)
    | text => (readNumber text).map fun (numeral, rest) => (.number numeral, rest)

/-- Read the items of an array up to its closing bracket. -/
def readItems : (steps : Nat) → List Char → Option (List Json × List Char)
  | 0, _ => none
  | steps + 1, text =>
    match readValue steps text with
    | none => none
    | some (item, rest) =>
      match skipBlanks rest with
      | ',' :: rest =>
        (readItems steps (skipBlanks rest)).map fun (items, rest) => (item :: items, rest)
      | ']' :: rest => some ([item], rest)
      | _ => none

/-- Read the members of an object up to its closing brace. -/
def readMembers : (steps : Nat) → List Char → Option (List (List Piece × Json) × List Char)
  | 0, _ => none
  | steps + 1, text =>
    match readKey text with
    | none => none
    | some (key, rest) =>
      match readValue steps rest with
      | none => none
      | some (value, rest) =>
        match skipBlanks rest with
        | ',' :: rest =>
          (readMembers steps (skipBlanks rest)).map fun (members, rest) =>
            ((key, value) :: members, rest)
        | '\x7d' :: rest => some ([(key, value)], rest)
        | _ => none
where
  /-- Read a key, and skip to the value behind it. -/
  readKey : List Char → Option (List Piece × List Char)
    | '"' :: rest =>
      match readString rest with
      | none => none
      | some (key, rest) =>
        match skipBlanks rest with
        | ':' :: rest => some (key, skipBlanks rest)
        | _ => none
    | _ => none
end

/-- Read a document. -/
def read (text : String) : Option Json :=
  let characters := text.toList
  match readValue (2 * characters.length + 2) (skipBlanks characters) with
  | some (json, rest) => if (skipBlanks rest).isEmpty then some json else none
  | none => none

end Sift.Json
