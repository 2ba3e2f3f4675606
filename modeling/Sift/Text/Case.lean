import Sift.Text.CaseTable

/-!
# Letter case

Two questions about case arise.  A keyword is recognised however it is capitalised, by comparing
the capitals of a word with the keyword; since keywords are spelt in ASCII, only characters whose
capitals lie wholly in ASCII can take part, and `asciiCapitals` knows exactly those.  A property is
named after its accessor by lowering the first letter (`decapitalize`), unless the name starts with
two upper-case letters, in which case it is an abbreviation and stays.
-/

namespace Sift.Text

/-! ## Capitals -/

/-- The capitals of a character, when they lie wholly in ASCII.  Beyond ASCII itself these are the
dotless i, the long and the sharp s, and the Latin ligatures. -/
def asciiCapitals (c : Char) : Option (List Char) :=
  if c.toNat < 128 then some [c.toUpper]
  else match c.toNat with
    | 0xDF => some ['S', 'S']
    | 0x131 => some ['I']
    | 0x17F => some ['S']
    | 0xFB00 => some ['F', 'F']
    | 0xFB01 => some ['F', 'I']
    | 0xFB02 => some ['F', 'L']
    | 0xFB03 => some ['F', 'F', 'I']
    | 0xFB04 => some ['F', 'F', 'L']
    | 0xFB05 => some ['S', 'T']
    | 0xFB06 => some ['S', 'T']
    | _ => none

/-- The capitals of a text, when they lie wholly in ASCII. -/
def capitals? (text : List Char) : Option (List Char) :=
  (text.mapM asciiCapitals).map List.flatten

/-- Whether a text spells an ASCII word, ignoring case. -/
def spells (text : List Char) (word : String) : Bool :=
  capitals? text == some word.toList

/-! ## Decapitalising a name -/

/-- Whether a code point lies in a run with a stride. -/
def inRun (first last step code : Nat) : Bool :=
  first ≤ code && code ≤ last && (code - first) % step == 0

/-- The characters with Unicode's property Uppercase. -/
def isUpper (c : Char) : Bool :=
  if c.toNat < 128 then c.isUpper
  else upperRanges.any fun (first, last, step) => inRun first last step c.toNat

/-- A character in lower case.  The dotted capital I is the only one that becomes two. -/
def lowered (c : Char) : List Char :=
  if c.toNat < 128 then [c.toLower]
  else if c.toNat = 0x130 then ['i', Char.ofNat 0x307]
  else
    match lowerRanges.find? fun (first, last, step, _) => inRun first last step c.toNat with
    | some (_, _, _, distance) => [Char.ofNat (c.toNat + distance).toNat]
    | none => [c]

/-- Lower the first letter of a name, unless its first two are both upper case: `FooBah` becomes
`fooBah` while `URL` stays. -/
def decapitalize (name : String) : String :=
  match name.toList with
  | [] => ""
  | [first] => String.ofList (lowered first)
  | first :: second :: rest =>
    if isUpper first && isUpper second then name
    else String.ofList (lowered first ++ second :: rest)

end Sift.Text
