import Mathlib.Data.List.Forall2
import Sift.Pattern.Matching

/-!
# Standard engines

What is relied on of an engine of regular expressions is little.  Only the constructs occur that
patterns need: the two anchors, the dot, its lazy repetition, and characters that are plain or
written by code point.  `Construct.Spells` says how these are written, `Construct.Takes` what each
takes of a text, and `Construct.Finds` that a search succeeds if the constructs take consecutive
pieces from anywhere in the text.  A dot takes any character, since the engine is told so
(`Engine.Standard` is about expressions compiled with this option), and laziness does not matter for
whether a search succeeds.

An engine is standard (`Engine.Standard`) if it compiles every such expression to the test of
whether the search succeeds, unless the expression is too large for it.
-/

set_option autoImplicit false

namespace Sift.Pattern

namespace Construct

/-! ## Expressions -/

/-- An expression is written as a sequence of constructs. -/
inductive Spells : List Construct → List Char → Prop where
  | nil : Spells [] []
  | start {constructs expression} (rest : Spells constructs expression) :
    Spells (.start :: constructs) ('\\' :: 'A' :: expression)
  | finish {constructs expression} (rest : Spells constructs expression) :
    Spells (.finish :: constructs) ('\\' :: 'z' :: expression)
  | dot {constructs expression} (rest : Spells constructs expression) :
    Spells (.dot :: constructs) ('.' :: expression)
  | run {constructs expression} (rest : Spells constructs expression) :
    Spells (.run :: constructs) ('.' :: '*' :: '?' :: expression)
  | plain {c constructs expression} (plain : c ∉ metaChars) (rest : Spells constructs expression) :
    Spells (.char c :: constructs) (c :: expression)
  | code {c digits constructs expression} (code : byCode? digits = some c)
    (rest : Spells constructs expression) :
    Spells (.char c :: constructs)
      ('\\' :: 'x' :: '\x7b' :: (digits ++ '\x7d' :: expression))

/-- Expressions of constructs one after the other. -/
theorem Spells.append {constructs constructs' : List Construct} {expression expression' : List Char}
    (first : Spells constructs expression) (second : Spells constructs' expression') :
    Spells (constructs ++ constructs') (expression ++ expression') := by
  induction first with
  | nil => exact second
  | start _ ih => exact .start ih
  | finish _ ih => exact .finish ih
  | dot _ ih => exact .dot ih
  | run _ ih => exact .run ih
  | plain plain _ ih => exact .plain plain ih
  | code code _ ih =>
    simp only [List.cons_append, List.append_assoc]
    exact .code code ih

/-- The texts that are written for a construct.  A character is written as it is, unless it has a
meaning, or by its code point in hexadecimal digits. -/
inductive WrittenAs : Construct → List Char → Prop where
  | start : WrittenAs .start ['\\', 'A']
  | finish : WrittenAs .finish ['\\', 'z']
  | dot : WrittenAs .dot ['.']
  | run : WrittenAs .run ['.', '*', '?']
  | plain {c : Char} (plain : c ∉ metaChars) : WrittenAs (.char c) [c]
  | code {c : Char} {digits : List Char} (code : byCode? digits = some c) :
    WrittenAs (.char c) ('\\' :: 'x' :: '\x7b' :: (digits ++ ['\x7d']))

/-- A piece that is written for a construct goes on with an expression. -/
theorem WrittenAs.spells {construct : Construct} {constructs : List Construct}
    {piece expression : List Char} (written : construct.WrittenAs piece)
    (rest : Spells constructs expression) :
    Spells (construct :: constructs) (piece ++ expression) := by
  cases written with
  | start => exact .start rest
  | finish => exact .finish rest
  | dot => exact .dot rest
  | run => exact .run rest
  | plain plain => exact .plain plain rest
  | code code =>
    simp only [List.cons_append, List.append_assoc, List.nil_append]
    exact .code code rest

/-! ## Searches -/

/-- What a construct takes of a text, after what stands before and in front of what comes after. -/
def Takes (before piece after : List Char) : Construct → Prop
  | start => before = [] ∧ piece = []
  | finish => after = [] ∧ piece = []
  | dot => ∃ c, piece = [c]
  | run => True
  | char c => piece = [c]

/-- Constructs take consecutive pieces after what stands before. -/
inductive MatchesAt : List Char → List Construct → List Char → Prop where
  | nil {before rest} : MatchesAt before [] rest
  | cons {before piece after construct constructs} (takes : construct.Takes before piece after)
    (rest : MatchesAt (before ++ piece) constructs after) :
    MatchesAt before (construct :: constructs) (piece ++ after)

/-- A search for constructs succeeds if they match somewhere in the text. -/
def Finds (constructs : List Construct) (text : List Char) : Prop :=
  ∃ before rest, text = before ++ rest ∧ MatchesAt before constructs rest

theorem matchesAt_cons_iff {before text : List Char} {construct : Construct}
    {constructs : List Construct} :
    MatchesAt before (construct :: constructs) text ↔ ∃ piece after, text = piece ++ after ∧
      construct.Takes before piece after ∧ MatchesAt (before ++ piece) constructs after := by
  constructor
  · rintro ⟨⟩
    exact ⟨_, _, rfl, ‹_›, ‹_›⟩
  · rintro ⟨piece, after, rfl, takes, rest⟩
    exact .cons takes rest

/-- Behind the anchor at the start only the whole text can be matched. -/
theorem finds_start_iff {constructs : List Construct} {text : List Char} :
    Finds (.start :: constructs) text ↔ MatchesAt [] constructs text := by
  constructor
  · rintro ⟨before, rest, rfl, found⟩
    obtain ⟨piece, after, rfl, ⟨rfl, rfl⟩, later⟩ := matchesAt_cons_iff.1 found
    exact later
  · intro found
    exact ⟨[], text, rfl, matchesAt_cons_iff.2 ⟨[], text, rfl, ⟨rfl, rfl⟩, found⟩⟩

end Construct

end Sift.Pattern

/-- An engine for which dots match line breaks compiles the expressions of constructs, apart from
those that are too large for it, to the test of whether the search for the constructs succeeds. -/
def Sift.Engine.Standard [engine : Sift.Engine] (fits : String → Prop) : Prop :=
  ∀ {constructs : List Sift.Pattern.Construct} {expression : String},
    Sift.Pattern.Construct.Spells constructs expression.toList → fits expression →
      ∃ test, engine.compile true expression = .ok test ∧
        ∀ text : String, test text = true ↔ Sift.Pattern.Construct.Finds constructs text.toList
