/-!
# LIKE patterns

A pattern is a text together with an optional escape character.  Read from left to right it is a
list of items: a percent sign stands for any run of characters, an underscore for any one
character, and everything else for itself.  The escape character makes a literal of whatever
follows it, itself and the two wildcards included; an escape character with nothing after it ends
the pattern.

Two patterns are equal when their texts and escape characters are, whatever they match.
-/

namespace Sift

/-- A LIKE pattern. -/
structure Pattern where
  text : String
  escape : Option Char
  deriving DecidableEq, Repr, Inhabited

namespace Pattern

/-- What one position of a pattern asks for.  An escaped character matches as a literal does. -/
inductive Item where
  | literal (c : Char)
  | escaped (c : Char)
  | anyOne
  | anyRun
  deriving DecidableEq, Repr

/-- The meaning of a character that is not the escape character. -/
def Item.ofChar (c : Char) : Item :=
  if c = '%' then .anyRun else if c = '_' then .anyOne else .literal c

/-- The items of a pattern text. -/
def itemsOf (escape : Option Char) : List Char → List Item
  | [] => []
  | [c] => if escape = some c then [] else [.ofChar c]
  | c :: next :: rest =>
    if escape = some c then .escaped next :: itemsOf escape rest
    else .ofChar c :: itemsOf escape (next :: rest)

/-- The items of a pattern. -/
def items (pattern : Pattern) : List Item :=
  itemsOf pattern.escape pattern.text.toList

end Pattern

end Sift
