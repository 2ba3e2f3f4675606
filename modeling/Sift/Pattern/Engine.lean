import Sift.Pattern.Regex

/-!
# Compiling patterns

Patterns are matched by an engine of regular expressions.  The engine is given the regular
expression of a pattern, and told that a dot is to match a line break like any other character.  It
either compiles the expression to a test of texts or refuses it, for example because it is too
large, and says why.  Whatever works with patterns does so for any engine.
-/

namespace Sift

/-- An engine of regular expressions. -/
class Engine where
  /-- The test of texts that an expression stands for, or why the expression is refused.  Unless
  the option is set, a dot does not match a line break. -/
  compile (dotMatchesNewLine : Bool) (expression : String) : Except String (String → Bool)

namespace Pattern

variable [Engine]

/-- The test of texts that a pattern stands for, or why it is refused. -/
def compile (pattern : Pattern) : Except String (String → Bool) :=
  Engine.compile true pattern.regex

/-- Whether a pattern that compiles matches a text. -/
def accepts (pattern : Pattern) (text : String) : Bool :=
  match pattern.compile with
  | .ok test => test text
  | .error _ => false

end Pattern

end Sift
