import Sift.Text.LetterTable

/-!
# Character classes of the predicate language

Four classes decide how a text is cut into words: white space separates them, a letter may begin
one, a numeral may continue one, and a decimal digit begins a number.  Letters, numerals and white
space are Unicode's; decimal digits are the ten of ASCII, since only those have a value here.

ASCII is decided by comparison and everything else by table, so a fact about an ASCII character
needs no table.
-/

namespace Sift.Text

/-- Whether a code point lies in one of the runs of a table. -/
def inRanges (ranges : Array (Nat × Nat)) (code : Nat) : Bool :=
  ranges.any fun (first, last) => first ≤ code && code ≤ last

/-- The characters with Unicode's property White_Space. -/
def isBlank (c : Char) : Bool :=
  let code := c.toNat
  (9 ≤ code && code ≤ 13) || code == 0x20 || code == 0x85 || code == 0xA0 || code == 0x1680 ||
    (0x2000 ≤ code && code ≤ 0x200A) || code == 0x2028 || code == 0x2029 || code == 0x202F ||
    code == 0x205F || code == 0x3000

/-- The characters with Unicode's property Alphabetic. -/
def isLetter (c : Char) : Bool :=
  if c.toNat < 128 then c.isAlpha else inRanges letterRanges c.toNat

/-- The numerals of any script: decimal digits, letter numerals and other numbers. -/
def isNumeral (c : Char) : Bool :=
  if c.toNat < 128 then c.isDigit else inRanges numeralRanges c.toNat

/-- A word begins with a letter, an underscore or a dollar sign. -/
def beginsWord (c : Char) : Bool :=
  isLetter c || c == '_' || c == '$'

/-- A word goes on with whatever may begin one, and with numerals. -/
def continuesWord (c : Char) : Bool :=
  isLetter c || isNumeral c || c == '_' || c == '$'

theorem continuesWord_of_beginsWord {c : Char} (begins : beginsWord c = true) :
    continuesWord c = true := by
  simp only [beginsWord, continuesWord, Bool.or_eq_true] at *
  rcases begins with (letter | underscore) | dollar
  · exact Or.inl (Or.inl (Or.inl letter))
  · exact Or.inl (Or.inr underscore)
  · exact Or.inr dollar

end Sift.Text
