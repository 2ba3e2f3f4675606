import Sift.Json.Basic
import Sift.Text.Quoted

/-!
# Writing a document

A document is written without blanks.  A string escapes its delimiter, the backslash and the
control characters, these by a letter where there is one and by number otherwise; all else stands
for itself.
-/

namespace Sift.Json

/-- A code unit as four hexadecimal digits. -/
def fourDigits (code : Nat) : List Char :=
  let digits := Text.hexDigits code
  List.replicate (4 - digits.length) '0' ++ digits

/-- A piece of a string as it is written. -/
def Piece.written : Piece → List Char
  | .unit code => '\\' :: 'u' :: fourDigits code
  | .char c =>
    if c == '"' || c == '\\' then ['\\', c]
    else
      match controlLetter? c with
      | some letter => ['\\', letter]
      | none => [c]

/-- A string as it is written. -/
def writtenString (content : List Piece) : List Char :=
  '"' :: content.flatMap Piece.written ++ ['"']

/-- A number as it is written. -/
def Numeral.written (numeral : Numeral) : List Char :=
  (if numeral.isNegative then ['-'] else []) ++ numeral.whole ++
    (if numeral.fraction.isEmpty then [] else '.' :: numeral.fraction) ++
    match numeral.exponent with
    | none => []
    | some (isNegative, digits) => 'e' :: (if isNegative then ['-'] else []) ++ digits

mutual
/-- A document as it is written. -/
def written : Json → List Char
  | .null => "null".toList
  | .boolean b => if b then "true".toList else "false".toList
  | .number numeral => numeral.written
  | .string content => writtenString content
  | .array items => '[' :: writtenItems items ++ [']']
  | .object members => '\x7b' :: writtenMembers members ++ ['\x7d']

/-- The items of an array as they are written. -/
def writtenItems : List Json → List Char
  | [] => []
  | [item] => item.written
  | item :: rest => item.written ++ ',' :: writtenItems rest

/-- The members of an object as they are written. -/
def writtenMembers : List (List Piece × Json) → List Char
  | [] => []
  | [(key, value)] => writtenString key ++ ':' :: value.written
  | (key, value) :: rest =>
    writtenString key ++ ':' :: value.written ++ ',' :: writtenMembers rest
end

/-- The text of a document. -/
def text (json : Json) : String :=
  String.ofList json.written

end Sift.Json
