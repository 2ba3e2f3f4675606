import Sift.Pattern.Basic
import Sift.Text.Quoted

/-!
# A pattern as a regular expression

The regular expression of a pattern is anchored at both ends.  A run becomes a lazy repetition of
the dot, any one character the dot itself.  A literal stands for itself unless regular expressions
give it a meaning; such a character, and every escaped one, is written by its code point, so no
text of a pattern is ever read as syntax.
-/

namespace Sift.Pattern

/-- The characters with a meaning in a regular expression. -/
def controlChars : List Char :=
  ".\\[]^$?*+\x7b\x7d|():&<>=!".toList

/-- A character written by its code point. -/
def byCode (c : Char) : List Char :=
  '\\' :: 'x' :: '\x7b' :: Text.hexDigits c.toNat ++ ['\x7d']

/-- The regular expression of one item. -/
def Item.regex : Item → List Char
  | .literal c => if controlChars.contains c then byCode c else [c]
  | .escaped c => byCode c
  | .anyOne => ['.']
  | .anyRun => ['.', '*', '?']

/-- The anchored regular expression of a pattern. -/
def regex (pattern : Pattern) : String :=
  String.ofList ("\\A".toList ++ pattern.items.flatMap Item.regex ++ "\\z".toList)

/-- A pattern with its parts named, as it is shown to a developer. -/
def summary (pattern : Pattern) : String :=
  let escape := match pattern.escape with
    | none => "None"
    | some c => "Some(" ++ Text.quotedLetter c ++ ")"
  "LikePattern \x7b like: " ++ Text.quoted pattern.text ++ ", escape: " ++ escape ++
    ", regex: " ++ Text.quoted pattern.regex ++ " \x7d"

end Sift.Pattern
