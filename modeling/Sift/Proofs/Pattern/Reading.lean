import Sift.Proofs.Pattern.Like

/-!
# The expression of a pattern is read in one way

An expression is read by cutting it into pieces, each of which is written for a construct
(`Construct.IsReading`).  Neighbours could fuse: a dot, an asterisk and a question mark in a row are
a lazy repetition, and a backslash gives a meaning to the letter behind it.  They never do.  The
characters that could continue a piece are no pieces on their own, so wherever the rest of an
expression has a reading, its first piece is certain (`Construct.WrittenAs.next?_append`), and an
expression has at most one reading (`Construct.IsReading.unique`).

The expression of a pattern has the reading that is meant: the anchors, and between them for each
item the construct of that item (`Pattern.regex_isReading_iff`).  So no text of a pattern, whatever
its escape character, is read as anything but itself.
-/

set_option autoImplicit false

namespace Sift.Pattern

namespace Construct

/-! ## Readings -/

/-- A reading of an expression: the constructs from left to right, each with the piece of the
expression that is written for it. -/
structure IsReading (reading : List (Construct × List Char)) (expression : List Char) : Prop where
  written : ∀ part ∈ reading, part.1.WrittenAs part.2
  pieces : reading.flatMap Prod.snd = expression

theorem WrittenAs.ne_nil {construct : Construct} {piece : List Char}
    (written : construct.WrittenAs piece) : piece ≠ [] := by
  cases written <;> exact List.cons_ne_nil _ _

theorem isReading_nil_iff {expression : List Char} : IsReading [] expression ↔ expression = [] :=
  ⟨fun reading => reading.pieces.symm, fun empty => ⟨nofun, empty.symm⟩⟩

theorem isReading_cons_iff {construct : Construct} {piece expression : List Char}
    {reading : List (Construct × List Char)} :
    IsReading ((construct, piece) :: reading) expression ↔
      ∃ rest, construct.WrittenAs piece ∧ IsReading reading rest ∧ expression = piece ++ rest := by
  constructor
  · rintro ⟨written, rfl⟩
    obtain ⟨first, others⟩ := List.forall_mem_cons.1 written
    exact ⟨_, first, ⟨others, rfl⟩, rfl⟩
  · rintro ⟨rest, first, ⟨others, rfl⟩, rfl⟩
    exact ⟨List.forall_mem_cons.2 ⟨first, others⟩, rfl⟩

theorem IsReading.append {reading reading' : List (Construct × List Char)}
    {expression expression' : List Char} (first : IsReading reading expression)
    (second : IsReading reading' expression') :
    IsReading (reading ++ reading') (expression ++ expression') := by
  refine ⟨fun part member => ?_, ?_⟩
  · rcases List.mem_append.1 member with inFirst | inSecond
    · exact first.written part inFirst
    · exact second.written part inSecond
  · rw [List.flatMap_append, first.pieces, second.pieces]

/-- A reading of an expression tells how it is spelt. -/
theorem IsReading.spells {reading : List (Construct × List Char)} {expression : List Char}
    (isReading : IsReading reading expression) :
    Spells (reading.map Prod.fst) expression := by
  induction reading generalizing expression with
  | nil =>
    obtain rfl := isReading_nil_iff.1 isReading
    exact .nil
  | cons part reading ih =>
    obtain ⟨rest, written, isReadingRest, rfl⟩ := isReading_cons_iff.1 isReading
    exact written.spells (ih isReadingRest)

/-! ## There is only one -/

/-- **What follows a piece does not change what it is read as.** -/
theorem WrittenAs.next?_append {construct : Construct} {constructs : List Construct}
    {piece expression : List Char} (written : construct.WrittenAs piece)
    (rest : Spells constructs expression) :
    next? (piece ++ expression) = some (construct, expression) := by
  cases written with
  | start => rfl
  | finish => rfl
  | dot => exact next?_dot rest
  | run => rfl
  | plain plain => exact next?_plain plain expression
  | code code =>
    simp only [List.cons_append, List.append_assoc, List.nil_append]
    exact next?_code code expression

/-- **An expression has at most one reading.** -/
theorem IsReading.unique {reading reading' : List (Construct × List Char)}
    {expression : List Char} (first : IsReading reading expression)
    (second : IsReading reading' expression) : reading = reading' := by
  induction reading generalizing reading' expression with
  | nil =>
    obtain rfl := isReading_nil_iff.1 first
    cases reading' with
    | nil => rfl
    | cons part reading' =>
      obtain ⟨rest, written, _, same⟩ := isReading_cons_iff.1 second
      exact absurd (List.append_eq_nil_iff.1 same.symm).1 written.ne_nil
  | cons part reading ih =>
    obtain ⟨construct, piece⟩ := part
    obtain ⟨rest, written, isReadingRest, rfl⟩ := isReading_cons_iff.1 first
    cases reading' with
    | nil =>
      have empty := isReading_nil_iff.1 second
      exact absurd (List.append_eq_nil_iff.1 empty).1 written.ne_nil
    | cons part' reading' =>
      obtain ⟨construct', piece'⟩ := part'
      obtain ⟨rest', written', isReadingRest', same⟩ := isReading_cons_iff.1 second
      -- both first pieces are what the reader finds first, so the same expression is left
      have found := written.next?_append isReadingRest.spells
      rw [same, written'.next?_append isReadingRest'.spells] at found
      obtain ⟨rfl, rfl⟩ := Prod.mk.inj (Option.some.inj found)
      obtain rfl := List.append_cancel_right same
      rw [ih isReadingRest isReadingRest']

end Construct

/-! ## Patterns -/

/-- The reading that is meant for items: each as its construct, between the anchors. -/
def readingOf (items : List Item) : List (Construct × List Char) :=
  (.start, "\\A".toList) :: items.map (fun item => (item.construct, item.regex)) ++
    [(.finish, "\\z".toList)]

theorem isReading_readingOf (pattern : Pattern) :
    Construct.IsReading (readingOf pattern.items) pattern.regex.toList := by
  have items : Construct.IsReading (pattern.items.map fun item => (item.construct, item.regex))
      (pattern.items.flatMap Item.regex) := by
    refine ⟨fun part member => ?_, ?_⟩
    · obtain ⟨item, _, rfl⟩ := List.mem_map.1 member
      exact item.writtenAs_regex
    · rw [List.flatMap_map]
  have start : Construct.IsReading [(.start, "\\A".toList)] "\\A".toList :=
    ⟨List.forall_mem_singleton.2 .start, rfl⟩
  have finish : Construct.IsReading [(.finish, "\\z".toList)] "\\z".toList :=
    ⟨List.forall_mem_singleton.2 .finish, rfl⟩
  rw [regex, String.toList_ofList]
  exact (start.append items).append finish

/-- **The expression of a pattern is read in exactly one way, as its items.**  Cut into pieces that
are written for constructs, it gives the anchor at the start, then for each item of the pattern text
the lazy repetition, the dot, or the character that is meant, and then the anchor at the end.  The
reader of the engine finds these constructs. -/
theorem regex_isReading_iff (pattern : Pattern) :
    ∃ items, Reads pattern.escape pattern.text.toList items ∧
      (∀ reading, Construct.IsReading reading pattern.regex.toList ↔ reading = readingOf items) ∧
      Construct.read? pattern.regex.toList =
        some (.start :: items.map Item.construct ++ [.finish]) := by
  refine ⟨pattern.items, reads_iff.2 rfl, fun reading => ⟨fun isReading => ?_, ?_⟩, ?_⟩
  · exact isReading.unique (isReading_readingOf pattern)
  · rintro rfl
    exact isReading_readingOf pattern
  · exact Construct.read?_of_spells (spells_regex pattern)

/-- A backslash, and wildcards that are meant, are written by code point. -/
example : readingOf (Pattern.mk "%\\?_!%" (some '!')).items =
    [(.start, "\\A".toList), (.run, ".*?".toList), (.char '\\', "\\x\x7b5c\x7d".toList),
      (.char '?', "\\x\x7b3f\x7d".toList), (.dot, ".".toList),
      (.char '%', "\\x\x7b25\x7d".toList), (.finish, "\\z".toList)] := by decide +kernel

end Sift.Pattern
