import Sift.Proofs.Pattern.Direct

/-!
# What patterns match

A pattern goes a long way before it is matched: its text is read as items, the items are written as
a regular expression, and an engine searches for that.  With a standard engine nothing is lost on
the way.  A text matches exactly if it splits into consecutive pieces, one for each item, that the
items take in order (`Pattern.matches_iff_splits`).
-/

set_option autoImplicit false

namespace Sift.Pattern

/-! ## Reading a pattern -/

/-- The items of a pattern text, from left to right.  The escape character comes before the
wildcards, and at the very end it ends the pattern. -/
inductive Reads (escape : Option Char) : List Char → List Item → Prop where
  | done : Reads escape [] []
  | dangling {c} (isEscape : escape = some c) : Reads escape [c] []
  | escaped {c next text items} (isEscape : escape = some c) (rest : Reads escape text items) :
    Reads escape (c :: next :: text) (.escaped next :: items)
  | anyRun {text items} (noEscape : escape ≠ some '%') (rest : Reads escape text items) :
    Reads escape ('%' :: text) (.anyRun :: items)
  | anyOne {text items} (noEscape : escape ≠ some '_') (rest : Reads escape text items) :
    Reads escape ('_' :: text) (.anyOne :: items)
  | literal {c text items} (noEscape : escape ≠ some c) (notRun : c ≠ '%') (notOne : c ≠ '_')
    (rest : Reads escape text items) : Reads escape (c :: text) (.literal c :: items)

theorem itemsOf_cons {escape : Option Char} {c : Char} (noEscape : escape ≠ some c)
    (rest : List Char) : itemsOf escape (c :: rest) = .ofChar c :: itemsOf escape rest := by
  cases rest with
  | nil => simp [itemsOf, noEscape]
  | cons next rest => rw [itemsOf, if_neg noEscape]

theorem reads_cons {escape : Option Char} {c : Char} (noEscape : escape ≠ some c)
    {rest : List Char} {items : List Item} (reads : Reads escape rest items) :
    Reads escape (c :: rest) (.ofChar c :: items) := by
  unfold Item.ofChar
  split_ifs with isRun isOne
  · exact isRun ▸ .anyRun (isRun ▸ noEscape) reads
  · exact isOne ▸ .anyOne (isOne ▸ noEscape) reads
  · exact .literal noEscape isRun isOne reads

/-- A pattern text is read in one way. -/
theorem reads_iff {escape : Option Char} {text : List Char} {items : List Item} :
    Reads escape text items ↔ itemsOf escape text = items := by
  constructor
  · intro reads
    induction reads with
    | done => rfl
    | dangling isEscape => rw [itemsOf, if_pos isEscape]
    | escaped isEscape _ ih => rw [itemsOf, if_pos isEscape, ih]
    | anyRun noEscape _ ih => rw [itemsOf_cons noEscape, ih]; rfl
    | anyOne noEscape _ ih => rw [itemsOf_cons noEscape, ih]; rfl
    | literal noEscape notRun notOne _ ih =>
      rw [itemsOf_cons noEscape, ih, Item.ofChar, if_neg notRun, if_neg notOne]
  · rintro rfl
    fun_induction itemsOf escape text with
    | case1 => exact .done
    | case2 c isEscape => exact .dangling isEscape
    | case3 c noEscape => exact reads_cons noEscape .done
    | case4 c next rest isEscape ih => exact .escaped isEscape ih
    | case5 c next rest noEscape ih => exact reads_cons noEscape ih

/-- What an item takes of a text. -/
def Item.Takes : Item → List Char → Prop
  | literal c, piece | escaped c, piece => piece = [c]
  | anyOne, piece => ∃ c, piece = [c]
  | anyRun, _ => True

/-! ## Writing it as an expression -/

/-- The construct of an item. -/
def Item.construct : Item → Construct
  | literal c | escaped c => .char c
  | anyOne => .dot
  | anyRun => .run

theorem Item.takes_construct {item : Item} {before piece after : List Char} :
    item.construct.Takes before piece after ↔ item.Takes piece := by
  cases item <;> exact Iff.rfl

/-- Every character with a meaning in an expression is written by its code point. -/
theorem notMem_metaChars {c : Char} (plain : ¬controlChars.contains c = true) :
    c ∉ Construct.metaChars := by
  have covered : Construct.metaChars.all (fun c => controlChars.contains c) = true := by decide
  exact fun isMeta => plain (List.all_eq_true.1 covered c isMeta)

/-- An item is written for its construct. -/
theorem Item.writtenAs_regex (item : Item) : item.construct.WrittenAs item.regex := by
  cases item with
  | literal c =>
    rw [Item.regex]
    split_ifs with control
    · exact .code (Construct.byCode?_hexDigits c)
    · exact .plain (notMem_metaChars control)
  | escaped c => exact .code (Construct.byCode?_hexDigits c)
  | anyOne => exact .dot
  | anyRun => exact .run

/-- The expression of a pattern has one construct for each item, between the anchors. -/
theorem spells_regex (pattern : Pattern) :
    Construct.Spells (.start :: (pattern.items.map Item.construct ++ [.finish]))
      pattern.regex.toList := by
  have items (items : List Item) :
      Construct.Spells (items.map Item.construct) (items.flatMap Item.regex) := by
    induction items with
    | nil => exact .nil
    | cons item rest ih => exact item.writtenAs_regex.spells ih
  rw [regex, String.toList_ofList]
  exact .start ((items pattern.items).append (.finish .nil))

/-! ## Searching for it -/

/-- Items match to the end of a text if they take consecutive pieces of it. -/
theorem matchesAt_items_iff {items : List Item} {before text : List Char} :
    Construct.MatchesAt before (items.map Item.construct ++ [.finish]) text ↔
      ∃ pieces, List.Forall₂ Item.Takes items pieces ∧ text = pieces.flatten := by
  induction items generalizing before text with
  | nil =>
    rw [List.map_nil, List.nil_append, Construct.matchesAt_cons_iff]
    constructor
    · rintro ⟨piece, after, rfl, ⟨rfl, rfl⟩, _⟩
      exact ⟨[], .nil, rfl⟩
    · rintro ⟨pieces, takes, rfl⟩
      cases takes
      exact ⟨[], [], rfl, ⟨rfl, rfl⟩, .nil⟩
  | cons item rest ih =>
    rw [List.map_cons, List.cons_append, Construct.matchesAt_cons_iff]
    constructor
    · rintro ⟨piece, after, rfl, takes, later⟩
      obtain ⟨pieces, takesRest, rfl⟩ := ih.1 later
      exact ⟨piece :: pieces, .cons (Item.takes_construct.1 takes) takesRest, rfl⟩
    · rintro ⟨pieces, takes, rfl⟩
      cases takes with
      | cons takes takesRest =>
        exact ⟨_, _, rfl, Item.takes_construct.2 takes, ih.2 ⟨_, takesRest, rfl⟩⟩

/-- The search for the expression of a pattern succeeds if its items take the text. -/
theorem finds_regex_iff {pattern : Pattern} {text : List Char} :
    Construct.Finds (.start :: (pattern.items.map Item.construct ++ [.finish])) text ↔
      ∃ pieces, List.Forall₂ Item.Takes pattern.items pieces ∧ text = pieces.flatten :=
  Construct.finds_start_iff.trans matchesAt_items_iff

/-- **A pattern matches the texts that split into pieces for its items.**  With a standard engine a
pattern compiles, unless its expression is too large, and a text matches exactly if it is the
concatenation of pieces that the items of the pattern text take, one after the other. -/
theorem matches_iff_splits [Engine] {fits : String → Prop} (standard : Engine.Standard fits)
    (pattern : Pattern) (small : fits pattern.regex) :
    ∃ test, pattern.compile = .ok test ∧ ∀ text : String, pattern.accepts text = test text ∧
      (test text = true ↔ ∃ items pieces, Reads pattern.escape pattern.text.toList items ∧
        List.Forall₂ Item.Takes items pieces ∧ text.toList = pieces.flatten) := by
  obtain ⟨test, compiled, decides⟩ := standard pattern.spells_regex small
  refine ⟨test, compiled, fun text => ⟨?_, ?_⟩⟩
  · have found : pattern.compile = .ok test := compiled
    rw [accepts, found]
  · rw [decides, finds_regex_iff]
    constructor
    · rintro ⟨pieces, takes, same⟩
      exact ⟨pattern.items, pieces, reads_iff.2 rfl, takes, same⟩
    · rintro ⟨items, pieces, reads, takes, same⟩
      obtain rfl := reads_iff.1 reads
      exact ⟨pieces, takes, same⟩

/-- Half of a hundred with a percent sign that is meant. -/
theorem matches_iff_splits_percent :
    ∃ test, @compile Engine.direct ⟨"50!%%", some '!'⟩ = .ok test ∧
      ∀ text : String, (test text = true ↔ ∃ items pieces, Reads (some '!') "50!%%".toList items ∧
        List.Forall₂ Item.Takes items pieces ∧ text.toList = pieces.flatten) := by
  obtain ⟨test, compiled, decides⟩ := @matches_iff_splits Engine.direct (fun _ => True)
    Engine.standard_direct ⟨"50!%%", some '!'⟩ trivial
  exact ⟨test, compiled, fun text => (decides text).2⟩

end Sift.Pattern
