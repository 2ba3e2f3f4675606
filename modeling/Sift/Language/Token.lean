import Sift.Text.Case

/-!
# Tokens

A predicate is a sequence of words, numbers, quoted texts and symbols.  A word is a keyword if it
spells one, however it is capitalised, and an identifier otherwise; an identifier may also be
quoted, and then it is never a keyword.
-/

namespace Sift

/-- The reserved words. -/
inductive Keyword where
  | and
  | or
  | not
  | null
  | is
  | inList
  | between
  | like
  | escape
  | any
  | true
  | false
  deriving DecidableEq, Repr

namespace Keyword

/-- All reserved words. -/
def all : List Keyword :=
  [.and, .or, .not, .null, .is, .inList, .between, .like, .escape, .any, .true, .false]

/-- The spelling of a reserved word, in capitals. -/
def spelling : Keyword → String
  | .and => "AND"
  | .or => "OR"
  | .not => "NOT"
  | .null => "NULL"
  | .is => "IS"
  | .inList => "IN"
  | .between => "BETWEEN"
  | .like => "LIKE"
  | .escape => "ESCAPE"
  | .any => "ANY"
  | .true => "TRUE"
  | .false => "FALSE"

/-- The reserved word that a word spells, ignoring case. -/
def ofWord? (word : List Char) : Option Keyword :=
  all.find? fun keyword => Text.spells word keyword.spelling

end Keyword

/-- The operators and delimiters. -/
inductive Symbol where
  | plus
  | minus
  | star
  | slash
  | percent
  | equal
  | notEqual
  | less
  | greater
  | lessEqual
  | greaterEqual
  | leftParen
  | rightParen
  | comma
  deriving DecidableEq, Repr

/-- The spelling of a symbol.  Unequal may also be spelt with an exclamation mark. -/
def Symbol.spelling : Symbol → String
  | .plus => "+"
  | .minus => "-"
  | .star => "*"
  | .slash => "/"
  | .percent => "%"
  | .equal => "="
  | .notEqual => "<>"
  | .less => "<"
  | .greater => ">"
  | .lessEqual => "<="
  | .greaterEqual => ">="
  | .leftParen => "("
  | .rightParen => ")"
  | .comma => ","

/-- The tokens of the predicate language. -/
inductive Token where
  | identifier (name : String)
  | number (text : String)
  | string (text : String)
  | keyword (word : Keyword)
  | symbol (mark : Symbol)
  deriving DecidableEq, Repr

namespace Token

/-- The token of a word. -/
def ofWord (word : List Char) : Token :=
  match Keyword.ofWord? word with
  | some reserved => .keyword reserved
  | none => .identifier (String.ofList word)

/-- Whether a token is a reserved word. -/
def isKeyword : Token → Bool
  | .keyword _ => true
  | _ => false

/-- A token in messages. -/
def describe : Token → String
  | .identifier name => "identifier '" ++ name ++ "'"
  | .number text => "number " ++ text
  | .string text => "string '" ++ text ++ "'"
  | .keyword word => word.spelling
  | .symbol mark => "'" ++ mark.spelling ++ "'"

/-- A token, or the end of the input, in messages. -/
def describeNext : Option Token → String
  | some token => token.describe
  | none => "end of input"

end Token

end Sift
