import Mathlib.Data.List.Forall2
import Sift.Proofs.Language.Tiling

/-!
# Writing tokens

Any row of tokens can be written down so that cutting the text gives the same row again.  An
identifier is written in quotation marks, whatever its name, and a string likewise; a keyword may be
written in any letter case (`Token.Written`).  Between two tokens a single space suffices, because
every token is cut off in front of one as it would be alone (`Lexer.tokenize_written`).
-/

set_option autoImplicit false

namespace Sift

/-! ## Written tokens -/

/-- How a token may be written so that nothing but its own text decides what it is. -/
inductive Token.Written : Token → String → Prop where
  | identifier (name : String) :
    Written (.identifier name) (String.ofList (Quotation.identifier.quoted name.toList))
  | string (text : String) :
    Written (.string text) (String.ofList (Quotation.string.quoted text.toList))
  | number {text : String} (isNumber : NumberText text.toList) : Written (.number text) text
  | keyword {reserved : Keyword} {word : String}
    (letters : word.toList.map Char.toUpper = reserved.spelling.toList) :
    Written (.keyword reserved) word
  | symbol (mark : Symbol) : Written (.symbol mark) mark.spelling

/-- One way to write a token, with keywords in capitals. -/
def Token.write : Token → String
  | .identifier name => String.ofList (Quotation.identifier.quoted name.toList)
  | .number text => text
  | .string text => String.ofList (Quotation.string.quoted text.toList)
  | .keyword reserved => reserved.spelling
  | .symbol mark => mark.spelling

theorem Token.written_write {token : Token}
    (numbers : ∀ text, token = .number text → NumberText text.toList) :
    token.Written token.write := by
  cases token with
  | identifier name => exact .identifier name
  | number text => exact .number (numbers text rfl)
  | string text => exact .string text
  | keyword reserved => exact .keyword (by cases reserved <;> decide)
  | symbol mark => exact .symbol mark

/-- All tokens can be written, except numbers whose text does not have the form of one. -/
theorem exists_written_iff {tokens : List Token} :
    (∃ texts, List.Forall₂ Token.Written tokens texts) ↔
      ∀ text, .number text ∈ tokens → NumberText text.toList := by
  constructor
  · rintro ⟨texts, written⟩
    induction written with
    | nil => exact nofun
    | cons first _ ih =>
      intro text member
      rcases List.mem_cons.1 member with rfl | later
      · cases first with
        | number isNumber => exact isNumber
      · exact ih text later
  · intro numbers
    refine ⟨tokens.map Token.write, ?_⟩
    rw [List.forall₂_map_right_iff, List.forall₂_same]
    intro token member
    refine Token.written_write fun text same => numbers text ?_
    rwa [← same]

/-! ## Letters -/

theorem beginsWord_of_isAlpha {c : Char} (alpha : c.isAlpha = true) :
    Text.beginsWord c = true := by
  simp [Text.beginsWord, Text.isLetter, (toNat_of_isAlpha alpha).2, alpha]

theorem capitals?_of_ascii {word : List Char} (ascii : ∀ c ∈ word, c.toNat < 128) :
    Text.capitals? word = some (word.map Char.toUpper) := by
  have capitals : word.mapM Text.asciiCapitals = some (word.map fun c => [c.toUpper]) := by
    induction word with
    | nil => rfl
    | cons c rest ih =>
      obtain ⟨first, others⟩ := List.forall_mem_cons.1 ascii
      simp [List.mapM_cons, Text.asciiCapitals, first, ih others]
  rw [Text.capitals?, capitals, Option.map_some, ← List.flatMap_def]
  exact congrArg some (List.map_eq_flatMap ..).symm

theorem isUpper_of_mem_spelling (reserved : Keyword) :
    ∀ c ∈ reserved.spelling.toList, c.isUpper = true := by
  rw [← List.all_eq_true]
  cases reserved <;> rfl

/-- Only a letter becomes a capital. -/
theorem isAlpha_of_isUpper_toUpper {c : Char} (upper : c.toUpper.isUpper = true) :
    c.isAlpha = true := by
  show (c.isUpper || c.isLower) = true
  unfold Char.toUpper at upper
  split at upper
  · rename_i lower
    have isLower : (decide (c.val ≥ 'a'.val) && decide (c.val ≤ 'z'.val)) = true := by
      rw [Bool.and_eq_true, decide_eq_true_eq, decide_eq_true_eq]
      exact lower
    exact Bool.or_eq_true_iff.2 (Or.inr isLower)
  · exact Bool.or_eq_true_iff.2 (Or.inl upper)

/-- The letters of a word that has the capitals of a keyword are letters of ASCII. -/
theorem isAlpha_of_capitals {word : List Char} {reserved : Keyword}
    (letters : word.map Char.toUpper = reserved.spelling.toList) :
    ∀ c ∈ word, c.isAlpha = true := by
  intro c member
  apply isAlpha_of_isUpper_toUpper
  apply isUpper_of_mem_spelling reserved
  rw [← letters]
  exact List.mem_map_of_mem member

/-- Every keyword has a first letter, so a word that has its capitals has one too. -/
theorem exists_first_of_capitals {word : List Char} {reserved : Keyword}
    (letters : word.map Char.toUpper = reserved.spelling.toList) :
    ∃ c rest, word = c :: rest ∧ c.isAlpha = true := by
  cases word with
  | nil => cases reserved <;> cases letters
  | cons c rest => exact ⟨c, rest, rfl, isAlpha_of_capitals letters c (List.mem_cons_self ..)⟩

/-! ## What is written is a spelling -/

/-- What is written for a token spells it. -/
theorem Token.Written.spelled {token : Token} {text : String} (written : token.Written text) :
    token.Spelled text.toList := by
  cases written with
  | identifier name =>
    have spelled := Spelled.quotedIdentifier name.toList
    rwa [String.ofList_toList, ← @String.toList_ofList (Quotation.identifier.quoted _)] at spelled
  | string text =>
    have spelled := Spelled.string text.toList
    rwa [String.ofList_toList, ← @String.toList_ofList (Quotation.string.quoted _)] at spelled
  | number isNumber =>
    have spelled := Spelled.number isNumber
    rwa [String.ofList_toList] at spelled
  | @keyword reserved _ letters =>
    have alpha := isAlpha_of_capitals letters
    refine .keyword ⟨?_, fun c member => ?_⟩ ?_
    · obtain ⟨c, rest, same, first⟩ := exists_first_of_capitals letters
      exact ⟨c, List.head?_eq_some_iff.2 ⟨rest, same⟩, beginsWord_of_isAlpha first⟩
    · exact Text.continuesWord_of_beginsWord (beginsWord_of_isAlpha (alpha c member))
    · rw [capitals?_of_ascii fun c member => (toNat_of_isAlpha (alpha c member)).2, letters]
  | symbol mark => exact .symbol mark

/-! ## Visible beginnings -/

/-- Neither blank nor the beginning of a comment. -/
def Visible (text : List Char) : Prop :=
  ∃ c rest, text = c :: rest ∧ Text.isBlank c = false ∧ (c = '-' → rest = [])

theorem isBlank_of_ascii {c : Char} (low : 32 < c.toNat) (high : c.toNat < 128) :
    Text.isBlank c = false := by
  simp only [Text.isBlank, Bool.or_eq_false_iff, Bool.and_eq_false_iff, decide_eq_false_iff_not,
    beq_eq_false_iff_ne]
  omega

theorem visible_of_ascii {c : Char} (rest : List Char) (low : 45 < c.toNat)
    (high : c.toNat < 128) : Visible (c :: rest) := by
  refine ⟨c, rest, rfl, isBlank_of_ascii (Nat.lt_trans (by decide) low) high, ?_⟩
  rintro rfl
  exact absurd low (by decide)

/-- What is written for a token is not skipped. -/
theorem Token.Written.visible {token : Token} {text : String} (written : token.Written text) :
    Visible text.toList := by
  cases written with
  | identifier name =>
    rw [String.toList_ofList]
    exact ⟨'"', _, rfl, by decide, nofun⟩
  | string text =>
    rw [String.toList_ofList]
    exact ⟨'\x27', _, rfl, by decide, nofun⟩
  | number isNumber =>
    obtain ⟨c, rest, same⟩ := List.exists_cons_of_ne_nil (Spelled.number isNumber).ne_nil
    have begins := Lexer.head_of_numberText isNumber c (by rw [same]; rfl)
    rw [same]
    rcases begins with digit | rfl
    · obtain ⟨low, high⟩ := toNat_of_isDigit digit
      exact visible_of_ascii rest (by omega) (by omega)
    · exact visible_of_ascii rest (by decide) (by decide)
  | @keyword reserved _ letters =>
    obtain ⟨c, rest, same, first⟩ := exists_first_of_capitals letters
    obtain ⟨low, high⟩ := toNat_of_isAlpha first
    rw [same]
    exact visible_of_ascii rest (by omega) high
  | symbol mark => cases mark <;> exact ⟨_, _, rfl, by decide, by decide⟩

namespace Lexer

/-! ## Cutting what is written -/

/-- Nothing, or a space and more. -/
def Separated (following : List Char) : Prop :=
  following = [] ∨ ∃ more, following = ' ' :: more

theorem skipBlanks_visible {text following : List Char} (visible : Visible text)
    (separated : Separated following) (offset : Nat) :
    skipBlanks offset (text ++ following) = ⟨offset, text ++ following⟩ := by
  obtain ⟨c, rest, rfl, notBlank, hyphen⟩ := visible
  rw [List.cons_append, skipBlanks, if_neg (by simp [notBlank]), if_neg]
  rintro ⟨rfl, second⟩
  rw [hyphen rfl] at second
  rcases separated with rfl | ⟨more, rfl⟩ <;> cases second

/-- **What is written for a token is cut off first**, where a space or nothing follows. -/
theorem lexFrom_written {token : Token} {text : String} (written : token.Written text)
    {following : List Char} (separated : Separated following) (offset : Nat) :
    lexFrom ⟨offset, text.toList ++ following⟩ =
      let later := lexFrom ⟨offset + text.toList.length, following⟩
      ⟨(token, offset + text.toList.length) :: later.tokens, later.ending⟩ := by
  have spelled := written.spelled
  have blanks := skipBlanks_visible written.visible separated offset
  generalize text.toList = span at spelled blanks
  obtain ⟨c, rest, rfl⟩ := List.exists_cons_of_ne_nil spelled.ne_nil
  have scanned := spelled.scan offset
  rcases separated with rfl | ⟨more, rfl⟩
  · rw [List.append_nil] at blanks ⊢
    exact lexFrom_token blanks scanned
  · exact lexFrom_token blanks (scan_separated separates_space scanned more)

/-- A space is skipped. -/
theorem lexFrom_space (offset : Nat) (text : List Char) :
    lexFrom ⟨offset, ' ' :: text⟩ = lexFrom ⟨offset + 1, text⟩ :=
  lexFrom_congr (Gap.skipBlanks_append (.blank (by decide) .nothing) offset text)

/-- Texts that are written for tokens, with a space between any two, are cut into these tokens. -/
theorem lexFrom_intercalate {tokens : List Token} {texts : List String}
    (written : List.Forall₂ Token.Written tokens texts) (offset : Nat) :
    let lexing := lexFrom ⟨offset, [' '].intercalate (texts.map String.toList)⟩
    lexing.tokens.map Prod.fst = tokens ∧ ∃ last, lexing.ending = .ok last := by
  induction written generalizing offset with
  | nil =>
    rw [lexFrom_end rfl]
    exact ⟨rfl, offset, rfl⟩
  | @cons token text tokens texts first others ih =>
    cases others with
    | nil =>
      have cut := lexFrom_written first (Or.inl rfl) offset
      have nothing : lexFrom ⟨offset + text.toList.length, []⟩ = ⟨[], .ok _⟩ := lexFrom_end rfl
      rw [List.append_nil, nothing] at cut
      rw [List.map_singleton, List.intercalate_singleton, cut]
      exact ⟨rfl, _, rfl⟩
    | @cons _ second _ texts =>
      have separated : Separated (' ' :: [' '].intercalate ((second :: texts).map String.toList)) :=
        Or.inr ⟨_, rfl⟩
      have cut := lexFrom_written first separated offset
      rw [List.map_cons, List.map_cons, List.intercalate_cons_cons, ← List.map_cons,
        List.append_assoc, List.singleton_append, cut, lexFrom_space]
      obtain ⟨tokens, last, ended⟩ := ih (offset + text.toList.length + 1)
      exact ⟨congrArg (token :: ·) tokens, last, ended⟩

/-- However tokens are written, with a space between any two, the text is cut into them. -/
theorem tokenize_intercalate {tokens : List Token} {texts : List String}
    (written : List.Forall₂ Token.Written tokens texts) :
    tokenize (" ".intercalate texts) = .ok tokens := by
  obtain ⟨same, last, ended⟩ := lexFrom_intercalate written 0
  have text : (" ".intercalate texts).toList = [' '].intercalate (texts.map String.toList) :=
    String.toList_intercalate
  rw [tokenize, lex, text, ended]
  exact congrArg _ same

/-- **Tokens can be written and read back.**  Any tokens can be written, as long as the texts of
the numbers among them have the form of numbers; and in whatever way they are written, joined with
single spaces, the text is cut into these very tokens. -/
theorem tokenize_written (tokens : List Token)
    (numbers : ∀ text, .number text ∈ tokens → NumberText text.toList) :
    (∃ texts, List.Forall₂ Token.Written tokens texts) ∧
      ∀ texts, List.Forall₂ Token.Written tokens texts →
        tokenize (" ".intercalate texts) = .ok tokens :=
  ⟨exists_written_iff.2 numbers, fun _ written => tokenize_intercalate written⟩

theorem tokenize_written_edges :
    let tokens : List Token :=
      [.identifier "or \"", .keyword .inList, .number "1.", .number ".5e+7", .symbol .minus,
        .symbol .minus, .string "it\x27s\n", .string ""]
    let texts := ["\"or \"\"\"", "iN", "1.", ".5e+7", "-", "-", "\x27it\x27\x27s\n\x27", "\x27\x27"]
    (∀ text, .number text ∈ tokens → NumberText text.toList) ∧
      List.Forall₂ Token.Written tokens texts ∧ tokenize (" ".intercalate texts) = .ok tokens := by
  intro tokens texts
  have point : NumberText "1.".toList :=
    @NumberText.decimal ['1'] [] [] (by decide) (by simp [AreDigits]) nofun .none
  have exponent : NumberText ".5e+7".toList :=
    @NumberText.decimal [] ['5'] ['e', '+', '7'] (by decide) nofun (by simp [AreDigits])
      (.signed (Or.inl rfl) (Or.inl rfl) (by decide) (by simp [AreDigits]))
  have written : List.Forall₂ Token.Written tokens texts :=
    .cons (.identifier _) <| .cons (.keyword rfl) <| .cons (.number point) <|
      .cons (.number exponent) <| .cons (.symbol .minus) <| .cons (.symbol .minus) <|
      .cons (.string _) <| .cons (.string _) .nil
  have numbers := exists_written_iff.1 ⟨texts, written⟩
  exact ⟨numbers, written, (tokenize_written tokens numbers).2 texts written⟩

end Lexer

end Sift
