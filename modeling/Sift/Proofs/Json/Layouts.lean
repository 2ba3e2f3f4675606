import Mathlib.Data.List.Forall2
import Sift.Proofs.Json.Scalars

/-!
# Documents are read back in any layout

A document may be laid out in many ways: blanks may stand on both sides of each mark that is not
part of a string or a number.  `Layout` tells the texts of a document without saying how they are
read, and the writer produces the one without blanks (`layout_written`).

The functions that read values count down a number of steps, and the proof goes down with them.
`ReadsValues`, `ReadsItems` and `ReadsMembers` say what so many steps achieve, and one step more
is enough for a further level or a further element (`readsValues_succ`, `readsItems_succ`,
`readsMembers_succ`).  So every layout of a document is read as that document (`read_of_layout`),
and no text is a layout of two (`Layout.unique`).
-/

set_option autoImplicit false

namespace Sift.Json

/-! ## Layouts -/

/-- Blanks and nothing else. -/
def IsGap (gap : List Char) : Prop :=
  ∀ c ∈ gap, isBlank c = true

/-- Elements with commas between them, and blanks around each. -/
inductive Listed {α : Type} (Spells : α → List Char → Prop) : List α → List Char → Prop where
  | none {gap : List Char} (blank : IsGap gap) : Listed Spells [] gap
  | last {element : α} {before text after : List Char} (leading : IsGap before)
      (spelt : Spells element text) (trailing : IsGap after) :
      Listed Spells [element] (before ++ (text ++ after))
  | cons {element next : α} {rest : List α} {before text after later : List Char}
      (leading : IsGap before) (spelt : Spells element text) (trailing : IsGap after)
      (others : Listed Spells (next :: rest) later) :
      Listed Spells (element :: next :: rest) (before ++ (text ++ (after ++ ',' :: later)))

/-- A key and a value with a colon between them, and blanks around it. -/
inductive Assigned (Spells : Json → List Char → Prop) : List Piece × Json → List Char → Prop where
  | mk {key : List Piece} {value : Json} {before after text : List Char}
      (writable : ∀ piece ∈ key, piece.IsWritable) (leading : IsGap before)
      (trailing : IsGap after) (spelt : Spells value text) :
      Assigned Spells (key, value) (writtenString key ++ (before ++ ':' :: (after ++ text)))

/-- A text of a document, with blanks where there may be some. -/
inductive Layout : Json → List Char → Prop where
  | null : Layout .null (written .null)
  | boolean (b : Bool) : Layout (.boolean b) (written (.boolean b))
  | number {numeral : Numeral} (writable : numeral.IsWritable) :
      Layout (.number numeral) numeral.written
  | string {content : List Piece} (writable : ∀ piece ∈ content, piece.IsWritable) :
      Layout (.string content) (writtenString content)
  | array {items : List Json} {inside : List Char} (listed : Listed Layout items inside) :
      Layout (.array items) ('[' :: (inside ++ [']']))
  | object {members : List (List Piece × Json)} {inside : List Char}
      (listed : Listed (Assigned Layout) members inside) :
      Layout (.object members) ('\x7b' :: (inside ++ ['\x7d']))

theorem isGap_nil : IsGap [] :=
  nofun

namespace Listed

variable {α : Type} {Spells : α → List Char → Prop} {element next : α} {rest : List α}
  {text later : List Char}

/-- The last element without blanks. -/
theorem single (spelt : Spells element text) : Listed Spells [element] text := by
  have listed := last isGap_nil spelt isGap_nil
  rwa [List.nil_append, List.append_nil] at listed

/-- An element before others without blanks. -/
theorem comma (spelt : Spells element text) (others : Listed Spells (next :: rest) later) :
    Listed Spells (element :: next :: rest) (text ++ ',' :: later) :=
  cons isGap_nil spelt isGap_nil others

end Listed

/-- A key and a value without blanks. -/
theorem Assigned.colon {Spells : Json → List Char → Prop} {key : List Piece} {value : Json}
    {text : List Char} (writable : ∀ piece ∈ key, piece.IsWritable) (spelt : Spells value text) :
    Assigned Spells (key, value) (writtenString key ++ ':' :: text) :=
  .mk writable isGap_nil isGap_nil spelt

/-! ## Blanks -/

theorem skipBlanks_gap {gap : List Char} (blank : IsGap gap) (rest : List Char) :
    skipBlanks (gap ++ rest) = skipBlanks rest :=
  List.dropWhile_append_of_pos blank

theorem skipBlanks_cons {c : Char} (visible : isBlank c = false) (rest : List Char) :
    skipBlanks (c :: rest) = c :: rest :=
  List.dropWhile_cons_of_neg (by simp [visible])

/-- A digit is no blank. -/
theorem isBlank_of_isDigit {c : Char} (digit : c.isDigit = true) : isBlank c = false := by
  rw [Bool.eq_false_iff]
  intro blank
  simp only [isBlank, Bool.or_eq_true, beq_iff_eq] at blank
  rcases blank with ((rfl | rfl) | rfl) | rfl <;> exact absurd digit (by decide)

/-- A written number begins with its sign or a digit. -/
theorem Numeral.IsWritable.head {numeral : Numeral} (writable : numeral.IsWritable) :
    ∃ c rest, numeral.written = c :: rest ∧ (c = '-' ∨ c.isDigit = true) := by
  obtain ⟨digit, digits, whole⟩ := List.exists_cons_of_ne_nil writable.nonempty
  have isDigit : digit.isDigit = true := writable.whole digit (whole ▸ List.mem_cons_self)
  rw [Numeral.written_eq, whole]
  cases numeral.isNegative with
  | true => exact ⟨_, _, rfl, .inl rfl⟩
  | false => exact ⟨_, _, rfl, .inr isDigit⟩

/-- A text of a document begins with a character that is neither blank nor a closing bracket. -/
theorem Layout.head {json : Json} {text : List Char} (layout : Layout json text) :
    ∃ c rest, text = c :: rest ∧ isBlank c = false ∧ c ≠ ']' := by
  cases layout with
  | null => exact ⟨'n', _, rfl, rfl, by decide⟩
  | boolean b => cases b with
    | true => exact ⟨'t', _, rfl, rfl, by decide⟩
    | false => exact ⟨'f', _, rfl, rfl, by decide⟩
  | number writable =>
    obtain ⟨c, rest, same, rfl | digit⟩ := writable.head
    · exact ⟨'-', rest, same, rfl, by decide⟩
    · refine ⟨c, rest, same, isBlank_of_isDigit digit, ?_⟩
      rintro rfl
      exact absurd digit (by decide)
  | string => exact ⟨'"', _, rfl, rfl, by decide⟩
  | array => exact ⟨'[', _, rfl, rfl, by decide⟩
  | object => exact ⟨'\x7b', _, rfl, rfl, by decide⟩

theorem Layout.skipBlanks_append {json : Json} {text : List Char} (layout : Layout json text)
    (rest : List Char) : skipBlanks (text ++ rest) = text ++ rest := by
  obtain ⟨c, text, rfl, visible, -⟩ := layout.head
  exact skipBlanks_cons visible _

/-- A text of a member begins with the mark of its key. -/
theorem Assigned.head {Spells : Json → List Char → Prop} {member : List Piece × Json}
    {text : List Char} (assigned : Assigned Spells member text) :
    ∃ c rest, text = c :: rest ∧ isBlank c = false ∧ c ≠ '\x7d' := by
  cases assigned with
  | mk => exact ⟨'"', _, rfl, rfl, by decide⟩

/-- A list is not closed at once if it has an element and none begins with the closing mark. -/
theorem Listed.opens {α : Type} {Spells : α → List Char → Prop} {closing : Char}
    (head : ∀ {element : α} {text : List Char}, Spells element text →
      ∃ c rest, text = c :: rest ∧ isBlank c = false ∧ c ≠ closing)
    {elements : List α} {inside : List Char} (listed : Listed Spells elements inside)
    (nonempty : elements ≠ []) (rest later : List Char) :
    skipBlanks (inside ++ rest) ≠ closing :: later := by
  cases listed with
  | none => exact absurd rfl nonempty
  | last leading spelt | cons leading spelt =>
    obtain ⟨c, text, rfl, visible, other⟩ := head spelt
    simp only [List.append_assoc, List.cons_append, skipBlanks_gap leading, skipBlanks_cons visible]
    exact fun same => other (List.cons.inj same).1

/-! ## What may follow -/

/-- A text that may follow on a value: it begins with a blank, a comma or a closing mark. -/
def Follows (rest : List Char) : Prop :=
  ∀ c ∈ rest.head?, isBlank c = true ∨ c = ',' ∨ c = ']' ∨ c = '\x7d'

theorem follows_gap {gap rest : List Char} (blank : IsGap gap) (follows : Follows rest) :
    Follows (gap ++ rest) := by
  cases gap with
  | nil => exact follows
  | cons c gap =>
    rintro _ ⟨⟩
    exact .inl (blank c List.mem_cons_self)

theorem follows_comma (rest : List Char) : Follows (',' :: rest) := by
  rintro _ ⟨⟩
  exact .inr (.inl rfl)

theorem follows_bracket (rest : List Char) : Follows (']' :: rest) := by
  rintro _ ⟨⟩
  exact .inr (.inr (.inl rfl))

theorem follows_brace (rest : List Char) : Follows ('\x7d' :: rest) := by
  rintro _ ⟨⟩
  exact .inr (.inr (.inr rfl))

theorem Follows.endsNumber {rest : List Char} (follows : Follows rest) : EndsNumber rest := by
  intro c head
  rcases follows c head with blank | rfl | rfl | rfl
  · simp only [isBlank, Bool.or_eq_true, beq_iff_eq] at blank
    rcases blank with ((rfl | rfl) | rfl) | rfl <;> decide
  all_goals decide

/-! ## Reading -/

/-- So many steps read every value whose text is at most half as long. -/
def ReadsValues (steps : Nat) : Prop :=
  ∀ {json : Json} {text rest : List Char}, Layout json text → Follows rest →
    2 * text.length ≤ steps → readValue steps (text ++ rest) = some (json, rest)

/-- So many steps read the items of every array whose text is less than half as long. -/
def ReadsItems (steps : Nat) : Prop :=
  ∀ {items : List Json} {text rest : List Char},
    Listed Layout items text → items ≠ [] → 2 * text.length < steps →
      readItems steps (skipBlanks (text ++ ']' :: rest)) = some (items, rest)

/-- So many steps read the members of every object whose text is less than half as long. -/
def ReadsMembers (steps : Nat) : Prop :=
  ∀ {members : List (List Piece × Json)} {text rest : List Char},
    Listed (Assigned Layout) members text → members ≠ [] → 2 * text.length < steps →
      readMembers steps (skipBlanks (text ++ '\x7d' :: rest)) = some (members, rest)

section Step

variable {steps : Nat}

/-- One step more reads the items of a longer array. -/
theorem readsItems_succ (values : ReadsValues steps) (items : ReadsItems steps) :
    ReadsItems (steps + 1) := by
  intro elements text rest listed nonempty enough
  cases listed with
  | none => exact absurd rfl nonempty
  | last leading spelt trailing =>
    simp only [List.length_append] at enough
    simp only [List.append_assoc, skipBlanks_gap leading, spelt.skipBlanks_append]
    rw [readItems, values spelt (follows_gap trailing (follows_bracket rest)) (by omega)]
    simp only [skipBlanks_gap trailing]
    rfl
  | cons leading spelt trailing others =>
    simp only [List.length_append, List.length_cons] at enough
    simp only [List.append_assoc, List.cons_append, skipBlanks_gap leading,
      spelt.skipBlanks_append]
    rw [readItems, values spelt (follows_gap trailing (follows_comma _)) (by omega)]
    simp only [skipBlanks_gap trailing, skipBlanks_cons (rfl : isBlank ',' = false)]
    rw [items others (List.cons_ne_nil _ _) (by omega)]
    rfl

theorem skipBlanks_writtenString (content : List Piece) (rest : List Char) :
    skipBlanks (writtenString content ++ rest) = writtenString content ++ rest :=
  skipBlanks_cons rfl _

/-- A key is read up to the value behind its colon. -/
theorem readKey_written {key : List Piece} {before after : List Char}
    (writable : ∀ piece ∈ key, piece.IsWritable) (leading : IsGap before)
    (trailing : IsGap after) (rest : List Char) :
    readMembers.readKey (writtenString key ++ (before ++ ':' :: (after ++ rest))) =
      some (key, skipBlanks rest) := by
  simp only [writtenString, List.append_assoc, List.cons_append, List.nil_append,
    readMembers.readKey, readString_written writable, skipBlanks_gap leading,
    skipBlanks_cons (rfl : isBlank ':' = false), skipBlanks_gap trailing]

/-- One step more reads the members of a longer object. -/
theorem readsMembers_succ (values : ReadsValues steps) (members : ReadsMembers steps) :
    ReadsMembers (steps + 1) := by
  intro elements text rest listed nonempty enough
  cases listed with
  | none => exact absurd rfl nonempty
  | last leading spelt trailing =>
    obtain ⟨writable, before, after, value⟩ := spelt
    simp only [List.length_append, List.length_cons] at enough
    simp only [List.append_assoc, List.cons_append, skipBlanks_gap leading,
      skipBlanks_writtenString]
    rw [readMembers, readKey_written writable before after, value.skipBlanks_append]
    simp only
    rw [values value (follows_gap trailing (follows_brace rest)) (by omega)]
    simp only [skipBlanks_gap trailing]
    rfl
  | cons leading spelt trailing others =>
    obtain ⟨writable, before, after, value⟩ := spelt
    simp only [List.length_append, List.length_cons] at enough
    simp only [List.append_assoc, List.cons_append, skipBlanks_gap leading,
      skipBlanks_writtenString]
    rw [readMembers, readKey_written writable before after, value.skipBlanks_append]
    simp only
    rw [values value (follows_gap trailing (follows_comma _)) (by omega)]
    simp only [skipBlanks_gap trailing, skipBlanks_cons (rfl : isBlank ',' = false)]
    rw [members others (List.cons_ne_nil _ _) (by omega)]
    rfl

/-- A number is read where a value is expected. -/
theorem readValue_number {numeral : Numeral} (writable : numeral.IsWritable) {rest : List Char}
    (ends : EndsNumber rest) :
    readValue (steps + 1) (numeral.written ++ rest) = some (.number numeral, rest) := by
  have read := readNumber_written writable ends
  obtain ⟨c, later, same, begins⟩ := writable.head
  rw [same] at read ⊢
  rw [readValue.eq_8, read, Option.map_some]
  -- neither a sign nor a digit begins any other value
  all_goals
    intro other same
    obtain ⟨rfl, -⟩ := List.cons.inj same
    exact absurd begins (by decide)

/-- An array that is closed at once has no items. -/
theorem readValue_noItems {gap : List Char} (blank : IsGap gap) (rest : List Char) :
    readValue (steps + 1) ('[' :: (gap ++ ']' :: rest)) = some (.array [], rest) := by
  rw [readValue, skipBlanks_gap blank]
  rfl

/-- Another array is read item by item. -/
theorem readValue_items {rest : List Char} (opens : ∀ later, skipBlanks rest ≠ ']' :: later) :
    readValue (steps + 1) ('[' :: rest) =
      (readItems steps (skipBlanks rest)).map fun (items, rest) => (.array items, rest) := by
  rw [readValue]
  split
  next later closes => exact absurd closes (opens later)
  next => rfl

/-- An object that is closed at once has no members. -/
theorem readValue_noMembers {gap : List Char} (blank : IsGap gap) (rest : List Char) :
    readValue (steps + 1) ('\x7b' :: (gap ++ '\x7d' :: rest)) = some (.object [], rest) := by
  rw [readValue, skipBlanks_gap blank]
  rfl

/-- Another object is read member by member. -/
theorem readValue_members {rest : List Char}
    (opens : ∀ later, skipBlanks rest ≠ '\x7d' :: later) :
    readValue (steps + 1) ('\x7b' :: rest) =
      (readMembers steps (skipBlanks rest)).map fun (members, rest) => (.object members, rest) := by
  rw [readValue]
  split
  next later closes => exact absurd closes (opens later)
  next => rfl

/-- One step more reads the values that contain one level more. -/
theorem readsValues_succ (readsItems : ReadsItems steps) (readsMembers : ReadsMembers steps) :
    ReadsValues (steps + 1) := by
  intro json text rest layout follows enough
  cases layout with
  | null => rfl
  | boolean b => cases b <;> rfl
  | number writable => exact readValue_number writable follows.endsNumber
  | string writable =>
    simp only [writtenString, List.cons_append, List.append_assoc, List.nil_append, readValue,
      readString_written writable, Option.map_some]
  | @array items inside listed =>
    simp only [List.length_cons, List.length_append, List.length_nil] at enough
    simp only [List.cons_append, List.append_assoc, List.nil_append]
    cases items with
    | nil =>
      cases listed with
      | none blank => exact readValue_noItems blank rest
    | cons item items =>
      have nonempty := List.cons_ne_nil item items
      rw [readValue_items (listed.opens Layout.head nonempty _),
        readsItems listed nonempty (by omega), Option.map_some]
  | @object members inside listed =>
    simp only [List.length_cons, List.length_append, List.length_nil] at enough
    simp only [List.cons_append, List.append_assoc, List.nil_append]
    cases members with
    | nil =>
      cases listed with
      | none blank => exact readValue_noMembers blank rest
    | cons member members =>
      have nonempty := List.cons_ne_nil member members
      rw [readValue_members (listed.opens Assigned.head nonempty _),
        readsMembers listed nonempty (by omega), Option.map_some]

end Step

/-- Steps enough for the length of a text are enough for the text. -/
theorem reads (steps : Nat) : ReadsValues steps ∧ ReadsItems steps ∧ ReadsMembers steps := by
  induction steps with
  | zero =>
    refine ⟨?_, fun _ _ enough => absurd enough (Nat.not_lt_zero _),
      fun _ _ enough => absurd enough (Nat.not_lt_zero _)⟩
    intro json text rest layout _ enough
    obtain ⟨c, text, rfl, -⟩ := layout.head
    exact absurd enough (by simp)
  | succ steps ih =>
    obtain ⟨values, items, members⟩ := ih
    exact ⟨readsValues_succ items members, readsItems_succ values items,
      readsMembers_succ values members⟩

/-- **Every layout of a document is read as that document.** -/
theorem read_of_layout {json : Json} {before text after : List Char} (layout : Layout json text)
    (leading : IsGap before) (trailing : IsGap after) :
    read (String.ofList (before ++ (text ++ after))) = some json := by
  have follows : Follows after := by
    rw [← List.append_nil after]
    exact follows_gap trailing nofun
  have nothing : skipBlanks after = [] := by
    rw [← List.append_nil after, skipBlanks_gap trailing]
    rfl
  rw [read, String.toList_ofList, skipBlanks_gap leading, layout.skipBlanks_append,
    (reads _).1 layout follows (by simp only [List.length_append]; omega)]
  simp only [nothing, List.isEmpty_nil, if_true]

/-- A text is the layout of one document at most. -/
theorem Layout.unique {json other : Json} {text : List Char} (layout : Layout json text)
    (same : Layout other text) : json = other := by
  have read := read_of_layout layout isGap_nil isGap_nil
  exact Option.some.inj (read.symm.trans (read_of_layout same isGap_nil isGap_nil))

/-! ## What is written -/

mutual
/-- A document that makes sense when it is written. -/
def IsWritable : Json → Prop
  | .null | .boolean _ => True
  | .number numeral => numeral.IsWritable
  | .string content => ∀ piece ∈ content, piece.IsWritable
  | .array items => AreWritable items
  | .object members => MembersAreWritable members

/-- Items that make sense when they are written. -/
def AreWritable : List Json → Prop
  | [] => True
  | item :: rest => item.IsWritable ∧ AreWritable rest

/-- Members that make sense when they are written. -/
def MembersAreWritable : List (List Piece × Json) → Prop
  | [] => True
  | (key, value) :: rest =>
    (∀ piece ∈ key, piece.IsWritable) ∧ value.IsWritable ∧ MembersAreWritable rest
end

mutual
/-- What is written is a layout. -/
theorem layout_written : ∀ {json : Json}, json.IsWritable → Layout json json.written
  | .null, _ => .null
  | .boolean b, _ => .boolean b
  | .number _, writable => by
    rw [IsWritable] at writable
    rw [written]
    exact .number writable
  | .string _, writable => by
    rw [IsWritable] at writable
    rw [written]
    exact .string writable
  | .array _, writable => by
    rw [IsWritable] at writable
    rw [written]
    exact .array (listed_writtenItems writable)
  | .object _, writable => by
    rw [IsWritable] at writable
    rw [written]
    exact .object (listed_writtenMembers writable)

theorem listed_writtenItems : ∀ {items : List Json}, AreWritable items →
    Listed Layout items (writtenItems items)
  | [], _ => .none isGap_nil
  | [item], writable => by
    rw [AreWritable] at writable
    rw [writtenItems]
    exact .single (layout_written writable.1)
  | item :: next :: rest, writable => by
    rw [AreWritable] at writable
    exact .comma (layout_written writable.1) (listed_writtenItems writable.2)

theorem listed_writtenMembers : ∀ {members : List (List Piece × Json)},
    MembersAreWritable members → Listed (Assigned Layout) members (writtenMembers members)
  | [], _ => .none isGap_nil
  | [(key, value)], writable => by
    rw [MembersAreWritable] at writable
    rw [writtenMembers]
    exact .single (.colon writable.1 (layout_written writable.2.1))
  | (key, value) :: next :: rest, writable => by
    rw [MembersAreWritable] at writable
    rw [writtenMembers]
    · exact .comma (.colon writable.1 (layout_written writable.2.1))
        (listed_writtenMembers writable.2.2)
    · exact List.cons_ne_nil _ _
end

/-- **A document that was written is read back.** -/
theorem read_text {json : Json} (writable : json.IsWritable) : read json.text = some json := by
  have read := read_of_layout (layout_written writable) isGap_nil isGap_nil
  rwa [List.nil_append, List.append_nil] at read

/-! ## Arrays of texts -/

/-- Letters are those of a text. -/
def Verbatim (text : String) (letters : List Char) : Prop :=
  letters = text.toList

/-- A text is an array of given texts, with blanks around each of them and around the whole. -/
def IsArrayOf (texts : List String) (text : String) : Prop :=
  ∃ before inside after, IsGap before ∧ Listed Verbatim texts inside ∧ IsGap after ∧
    text = String.ofList (before ++ ('[' :: (inside ++ [']']) ++ after))

theorem listed_intercalate : ∀ texts : List String,
    Listed Verbatim texts (",".intercalate texts).toList
  | [] => .none isGap_nil
  | [text] => by
    rw [String.intercalate_singleton]
    exact .single rfl
  | text :: next :: rest => by
    rw [String.intercalate_cons_cons, String.toList_append, String.toList_append,
      List.append_assoc]
    exact .comma rfl (listed_intercalate (next :: rest))

/-- Texts with commas between them in brackets are an array of them. -/
theorem isArrayOf_intercalate (texts : List String) :
    IsArrayOf texts ("[" ++ ",".intercalate texts ++ "]") := by
  refine ⟨[], _, [], isGap_nil, listed_intercalate texts, isGap_nil, ?_⟩
  rw [← String.toList_inj]
  simp

/-- A list of elements is a list of others that are spelt whenever these are. -/
theorem Listed.of_forall₂ {α β : Type} {Spells : α → List Char → Prop}
    {Others : β → List Char → Prop} {others : List β} {elements : List α} {inside : List Char}
    (each : List.Forall₂ (fun other element => ∀ text, Others other text → Spells element text)
      others elements)
    (listed : Listed Others others inside) : Listed Spells elements inside := by
  induction listed generalizing elements with
  | none blank =>
    cases each
    exact .none blank
  | last leading spelt trailing =>
    cases each with
    | cons first none =>
      cases none
      exact .last leading (first _ spelt) trailing
  | cons leading spelt trailing _ ih =>
    cases each with
    | cons first rest =>
      have later := ih rest
      cases rest with
      | cons => exact .cons leading (first _ spelt) trailing later

end Sift.Json
