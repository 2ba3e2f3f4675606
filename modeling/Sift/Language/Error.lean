import Sift.Expression.Error
import Sift.Language.Token

/-!
# Failures of reading a predicate

A text may fail to be cut into tokens, the tokens may fail to form a predicate, and a predicate may
be too deep to build.  Offsets count characters of the text and positions count tokens, both from
zero.
-/

namespace Sift

/-! ## Cutting into tokens -/

/-- The two quoted forms, which have to be closed. -/
inductive Quotation where
  | identifier
  | string
  deriving DecidableEq, Repr

/-- A quoted form in messages. -/
def Quotation.describe : Quotation → String
  | .identifier => "quoted identifier"
  | .string => "string literal"

/-- Why a text cannot be cut into tokens. -/
inductive LexError where
  | illegalCharacter (character : Char) (offset : Nat)
  | unterminated (quotation : Quotation) (offset : Nat)
  deriving DecidableEq, Repr

/-- The text of a lexical error. -/
def LexError.message : LexError → String
  | .illegalCharacter character offset =>
    "Illegal character '" ++ character.toString ++ "' at offset " ++ toString offset
  | .unterminated quotation offset =>
    "Unterminated " ++ quotation.describe ++ " starting at offset " ++ toString offset

/-! ## Forming a predicate -/

/-- What would have been accepted in place of a token. -/
inductive Expected where
  | expression
  | truthTest
  | escapeCharacter
  | token (wanted : Token)
  | finish
  deriving DecidableEq, Repr

/-- An expectation in messages. -/
def Expected.describe : Expected → String
  | .expression => "expression"
  | .truthTest => "NULL, TRUE or FALSE"
  | .escapeCharacter => "escape character string"
  | .token wanted => wanted.describe
  | .finish => Token.describeNext none

/-- Why a text is not a predicate. -/
inductive ParseError where
  | lexical (error : LexError)
  | unexpected (position : Nat) (expected : Expected) (found : Option Token)
  | invalidNumber (text : String)
  | invalidEscape (text : String)
  | tooDeep
  | build (error : BuildError)
  deriving DecidableEq, Repr

/-- The text of a parse error. -/
def ParseError.message : ParseError → String
  | .lexical error => error.message
  | .unexpected position expected found =>
    "Unexpected token at position " ++ toString position ++ ": expected " ++ expected.describe ++
      ", found " ++ Token.describeNext found
  | .invalidNumber text => "Invalid number literal: " ++ text
  | .invalidEscape text => "ESCAPE must be a single character, got '" ++ text ++ "'"
  | .tooDeep => "Predicate nested deeper than " ++ toString maxDepth ++ " levels"
  | .build error => "Invalid expression: " ++ error.message

/-- The texts of the errors below a parse error. -/
def ParseError.causes : ParseError → List String
  | .build error => [error.message]
  | _ => []

end Sift
