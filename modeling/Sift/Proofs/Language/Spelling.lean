import Mathlib.Data.List.TakeWhile
import Sift.Language.Lexer

/-!
# Spellings

The texts that stand for a token are told here without saying how they are cut off
(`Token.Spelled`).  An identifier is a word that spells no keyword, or any text in quotation marks;
a keyword is a word whose capitals are its own; and so on.  A mark inside a quoted form is doubled.

The lexer cuts off spellings and nothing else (`Lexer.spelled_of_scan`), and a spelling that stands
alone is cut off as a whole (`Token.Spelled.scan`).
-/

set_option autoImplicit false

namespace Sift

/-! ## Quoted forms -/

/-- The mark on both sides of a quoted form. -/
def Quotation.mark : Quotation → Char
  | .identifier => '"'
  | .string => '\x27'

/-- A text with every mark in it doubled. -/
def doubled (mark : Char) : List Char → List Char
  | [] => []
  | c :: rest =>
    if c = mark then mark :: mark :: doubled mark rest else c :: doubled mark rest

/-- A text between quotation marks, in which the marks are doubled. -/
def Quotation.quoted (quotation : Quotation) (payload : List Char) : List Char :=
  quotation.mark :: (doubled quotation.mark payload ++ [quotation.mark])

/-! ## Words -/

/-- A word: a character that may begin one, and characters that go on with it. -/
def IsWord (text : List Char) : Prop :=
  (∃ c ∈ text.head?, Text.beginsWord c = true) ∧ ∀ c ∈ text, Text.continuesWord c = true

/-- A word spells the keyword that has the capitals of the word, and at most one has. -/
theorem Keyword.ofWord?_eq_some_iff {word : List Char} {reserved : Keyword} :
    ofWord? word = some reserved ↔ Text.capitals? word = some reserved.spelling.toList := by
  unfold ofWord?
  constructor
  · intro found
    have spells := List.find?_some found
    exact eq_of_beq spells
  · intro capitals
    unfold Text.spells
    rw [capitals]
    cases reserved <;> decide

/-! ## Numbers -/

/-- Digits of the decimal system, of which there may be none. -/
def AreDigits (text : List Char) : Prop :=
  ∀ c ∈ text, c.isDigit = true

/-- The exponent of a number, if it has one: a mark, perhaps a sign, and digits. -/
inductive ExponentText : List Char → Prop where
  | none : ExponentText []
  | unsigned {mark : Char} {digits : List Char} (isMark : mark = 'e' ∨ mark = 'E')
    (some : digits ≠ []) (areDigits : AreDigits digits) : ExponentText (mark :: digits)
  | signed {mark sign : Char} {digits : List Char} (isMark : mark = 'e' ∨ mark = 'E')
    (isSign : sign = '+' ∨ sign = '-') (some : digits ≠ []) (areDigits : AreDigits digits) :
    ExponentText (mark :: sign :: digits)

/-- No exponent begins with a digit. -/
theorem ExponentText.not_digit {text : List Char} (isExponent : ExponentText text) :
    ∀ c ∈ text.head?, c.isDigit = false := by
  cases isExponent with
  | none => exact nofun
  | unsigned isMark | signed isMark =>
    rintro _ ⟨⟩
    rcases isMark with rfl | rfl <;> rfl

/-- No exponent begins with a point. -/
theorem ExponentText.ne_point {text : List Char} (isExponent : ExponentText text)
    (rest : List Char) : text ≠ '.' :: rest := by
  cases isExponent with
  | none => exact nofun
  | unsigned isMark | signed isMark => rcases isMark with rfl | rfl <;> exact nofun

/-- A number: digits with at most one point among or beside them, and perhaps an exponent. -/
inductive NumberText : List Char → Prop where
  | whole {digits exponent : List Char} (some : digits ≠ []) (areDigits : AreDigits digits)
    (isExponent : ExponentText exponent) : NumberText (digits ++ exponent)
  | decimal {digits decimals exponent : List Char} (some : digits ++ decimals ≠ [])
    (areDigits : AreDigits digits) (areDecimals : AreDigits decimals)
    (isExponent : ExponentText exponent) :
    NumberText (digits ++ '.' :: (decimals ++ exponent))

/-! ## Tokens -/

/-- The texts that stand for a token. -/
inductive Token.Spelled : Token → List Char → Prop where
  | identifier {word : List Char} (isWord : IsWord word)
    (free : ∀ reserved : Keyword, Text.capitals? word ≠ some reserved.spelling.toList) :
    Spelled (.identifier (String.ofList word)) word
  | keyword {word : List Char} {reserved : Keyword} (isWord : IsWord word)
    (capitals : Text.capitals? word = some reserved.spelling.toList) :
    Spelled (.keyword reserved) word
  | quotedIdentifier (payload : List Char) :
    Spelled (.identifier (String.ofList payload)) (Quotation.identifier.quoted payload)
  | string (payload : List Char) :
    Spelled (.string (String.ofList payload)) (Quotation.string.quoted payload)
  | number {text : List Char} (isNumber : NumberText text) :
    Spelled (.number (String.ofList text)) text
  | symbol (mark : Symbol) : Spelled (.symbol mark) mark.spelling.toList
  | unequal : Spelled (.symbol .notEqual) ['!', '=']

/-- A spelling has at least one character. -/
theorem Token.Spelled.ne_nil {token : Token} {text : List Char} (spelled : token.Spelled text) :
    text ≠ [] := by
  cases spelled with
  | identifier isWord | keyword isWord =>
    rintro rfl
    obtain ⟨⟨_, impossible, _⟩, _⟩ := isWord
    cases impossible
  | number isNumber =>
    cases isNumber with
    | whole some => exact List.append_ne_nil_of_left_ne_nil some _
    | decimal => exact List.append_ne_nil_of_right_ne_nil _ (List.cons_ne_nil _ _)
  | symbol mark => cases mark <;> exact List.cons_ne_nil _ _
  | _ => exact List.cons_ne_nil _ _

/-! ## Digits and letters -/

theorem toNat_of_isDigit {c : Char} (digit : c.isDigit = true) : 48 ≤ c.toNat ∧ c.toNat < 58 := by
  simp only [Char.isDigit, Bool.and_eq_true, decide_eq_true_eq, ge_iff_le,
    UInt32.le_iff_toNat_le, UInt32.reduceToNat, Char.reduceVal, Char.toNat_val] at digit
  omega

/-- A letter of ASCII, told by its code. -/
theorem toNat_of_isAlpha {c : Char} (alpha : c.isAlpha = true) : 65 ≤ c.toNat ∧ c.toNat < 128 := by
  have letter : (decide (c.val ≥ 'A'.val ∧ c.val ≤ 'Z'.val) ||
      (decide (c.val ≥ 'a'.val) && decide (c.val ≤ 'z'.val))) = true := alpha
  simp only [Bool.or_eq_true, Bool.and_eq_true, decide_eq_true_eq, ge_iff_le,
    UInt32.le_iff_toNat_le, UInt32.reduceToNat, Char.reduceVal, Char.toNat_val] at letter
  omega

/-- No word begins with a digit. -/
theorem beginsWord_of_isDigit {c : Char} (digit : c.isDigit = true) :
    Text.beginsWord c = false := by
  obtain ⟨low, high⟩ := toNat_of_isDigit digit
  have notAlpha : c.isAlpha = false := by
    by_contra alpha
    have := toNat_of_isAlpha (eq_true_of_ne_false alpha)
    omega
  have underscore : c ≠ '_' := by
    rintro rfl
    exact absurd high (by decide)
  have dollar : c ≠ '$' := by
    rintro rfl
    exact absurd low (by decide)
  simp [Text.beginsWord, Text.isLetter, Nat.lt_trans high (by decide : 58 < 128), notAlpha,
    underscore, dollar]

/-- A point is no digit. -/
theorem point_not_digit (rest : List Char) :
    ∀ c ∈ ('.' :: rest).head?, c.isDigit = false := by
  rintro _ ⟨⟩
  rfl

theorem takeWhile_digits {digits rest : List Char} (areDigits : AreDigits digits)
    (ends : ∀ c ∈ rest.head?, c.isDigit = false) :
    (digits ++ rest).takeWhile Char.isDigit = digits := by
  rw [List.takeWhile_append_of_pos areDigits]
  cases rest with
  | nil => exact List.append_nil digits
  | cons c rest => rw [List.takeWhile_cons_of_neg (by simp [ends c rfl]), List.append_nil]

theorem dropWhile_digits {digits rest : List Char} (areDigits : AreDigits digits)
    (ends : ∀ c ∈ rest.head?, c.isDigit = false) :
    (digits ++ rest).dropWhile Char.isDigit = rest := by
  rw [List.dropWhile_append_of_pos areDigits]
  cases rest with
  | nil => rfl
  | cons c rest => exact List.dropWhile_cons_of_neg (by simp [ends c rfl])

/-! ## What is cut off -/

namespace Lexer

/-- A quoted form is its payload with the marks doubled, up to a single mark. -/
theorem doubled_of_quotedForm? {mark : Char} {text payload behind : List Char} {size : Nat}
    (read : quotedForm? mark text = some (payload, size, behind)) :
    text = doubled mark payload ++ mark :: behind := by
  fun_induction quotedForm? mark text generalizing payload size behind with
  | case1 => cases read
  | case2 =>
    cases read
    rfl
  | case3 rest ih =>
    obtain ⟨⟨innerPayload, innerSize, innerBehind⟩, inner, same⟩ := Option.map_eq_some_iff.1 read
    cases same
    rw [ih inner, doubled, if_pos rfl]
    rfl
  | case4 d behind' notDoubled =>
    cases read
    rfl
  | case5 c rest notMark ih =>
    obtain ⟨⟨innerPayload, innerSize, innerBehind⟩, inner, same⟩ := Option.map_eq_some_iff.1 read
    cases same
    rw [ih inner, doubled, if_neg notMark]
    rfl

theorem areDigits_takeWhile (text : List Char) : AreDigits (text.takeWhile Char.isDigit) :=
  fun _ member => List.mem_takeWhile_imp member

theorem takeWhile_ne_nil {c : Char} (digit : c.isDigit = true) (rest : List Char) :
    (c :: rest).takeWhile Char.isDigit ≠ [] := by
  rw [List.takeWhile_cons_of_pos digit]
  exact List.cons_ne_nil _ _

theorem exponentText_exponentOf (text : List Char) : ExponentText (exponentOf text).1 := by
  have isMark {mark : Char} (found : (mark == 'e' || mark == 'E') = true) :
      mark = 'e' ∨ mark = 'E' := by simpa using found
  fun_cases exponentOf text with
  | case1 mark sign digit rest marked digits =>
    exact .unsigned (isMark marked) (takeWhile_ne_nil digits _) (areDigits_takeWhile _)
  | case2 mark sign digit rest marked _ signed =>
    obtain ⟨isSign, digits⟩ := Bool.and_eq_true_iff.1 signed
    exact .signed (isMark marked) (by simpa using isSign) (takeWhile_ne_nil digits _)
      (areDigits_takeWhile _)
  | case5 mark digit marked =>
    obtain ⟨marked, digits⟩ := Bool.and_eq_true_iff.1 marked
    exact .unsigned (isMark marked) (List.cons_ne_nil _ _) (List.forall_mem_singleton.2 digits)
  | _ => exact .none

/-- What is cut off as a number has the form of one. -/
theorem numberText_numberOf {c : Char} {rest : List Char} (begins : beginsNumber c rest = true) :
    NumberText (numberOf (c :: rest)).1 := by
  have digits := areDigits_takeWhile (c :: rest)
  simp only [numberOf, List.append_assoc]
  by_cases digit : c.isDigit = true
  · have some := takeWhile_ne_nil digit rest
    generalize (c :: rest).dropWhile Char.isDigit = behind
    fun_cases fractionOf behind with
    | case1 decimals =>
      exact .decimal (List.append_ne_nil_of_left_ne_nil some _) digits (areDigits_takeWhile _)
        (exponentText_exponentOf _)
    | case2 => exact .whole some digits (exponentText_exponentOf behind)
  · simp only [beginsNumber, digit, Bool.false_or, Bool.and_eq_true, beq_iff_eq] at begins
    obtain ⟨rfl, next⟩ := begins
    obtain ⟨decimal, rest, rfl, isDigit⟩ : ∃ decimal more,
        rest = decimal :: more ∧ decimal.isDigit = true := by
      cases rest with
      | nil => cases next
      | cons decimal more => exact ⟨decimal, more, rfl, next⟩
    have some := takeWhile_ne_nil isDigit rest
    rw [List.takeWhile_cons_of_neg digit, List.dropWhile_cons_of_neg digit] at *
    exact .decimal some digits (areDigits_takeWhile _) (exponentText_exponentOf _)

/-- The symbol that is found stands at the start of the text. -/
theorem spelled_of_symbolOf? {text : List Char} {symbol : Symbol} {size : Nat}
    (found : symbolOf? text = some (symbol, size)) :
    (Token.symbol symbol).Spelled (text.take size) := by
  fun_cases symbolOf? text with
  | case3 rest notEqual notGreater =>
    cases (symbolOf?.eq_3 rest notEqual notGreater).symm.trans found
    exact .symbol .less
  | case5 rest notEqual =>
    cases (symbolOf?.eq_5 rest notEqual).symm.trans found
    exact .symbol .greater
  | case6 =>
    cases found
    exact .unequal
  | case16 => simp_all [symbolOf?]
  | _ =>
    cases found
    exact .symbol _

theorem spelled_of_scanQuoted {quotation : Quotation} {build : String → Token}
    (spells : ∀ payload, (build (String.ofList payload)).Spelled (quotation.quoted payload))
    {offset : Nat} {rest : List Char} {token : Token} {next : Cursor}
    (scanned : scanQuoted quotation quotation.mark build offset rest = .ok (token, next)) :
    ∃ span, quotation.mark :: rest = span ++ next.rest ∧ token.Spelled span := by
  unfold scanQuoted at scanned
  split at scanned
  · rename_i payload size behind read
    obtain ⟨rfl, rfl⟩ := Prod.mk.inj (Except.ok.inj scanned)
    refine ⟨quotation.quoted payload, ?_, spells payload⟩
    rw [doubled_of_quotedForm? read, Quotation.quoted]
    simp
  · cases scanned

/-- **What the lexer cuts off spells the token.** -/
theorem spelled_of_scan {offset : Nat} {c : Char} {rest : List Char} {token : Token}
    {next : Cursor} (scanned : scan offset c rest = .ok (token, next)) :
    ∃ span, c :: rest = span ++ next.rest ∧ token.Spelled span := by
  unfold scan at scanned
  split_ifs at scanned with string quotedIdentifier begins number
  · subst string
    exact spelled_of_scanQuoted .string scanned
  · subst quotedIdentifier
    exact spelled_of_scanQuoted .quotedIdentifier scanned
  · obtain ⟨rfl, rfl⟩ := Prod.mk.inj (Except.ok.inj scanned)
    refine ⟨_, List.takeWhile_append_dropWhile.symm, ?_⟩
    have isWord : IsWord ((c :: rest).takeWhile Text.continuesWord) := by
      refine ⟨⟨c, ?_, begins⟩, fun d member => List.mem_takeWhile_imp member⟩
      rw [List.takeWhile_cons_of_pos (Text.continuesWord_of_beginsWord begins)]
      rfl
    generalize (c :: rest).takeWhile Text.continuesWord = word at isWord
    unfold Token.ofWord
    cases spells : Keyword.ofWord? word with
    | some reserved => exact .keyword isWord (Keyword.ofWord?_eq_some_iff.1 spells)
    | none =>
      refine .identifier isWord fun reserved capitals => ?_
      rw [Keyword.ofWord?_eq_some_iff.2 capitals] at spells
      cases spells
  · obtain ⟨rfl, rfl⟩ := Prod.mk.inj (Except.ok.inj scanned)
    exact ⟨_, (numberOf_append (c :: rest)).symm, .number (numberText_numberOf number)⟩
  · split at scanned
    · rename_i symbol size found
      obtain ⟨rfl, rfl⟩ := Prod.mk.inj (Except.ok.inj scanned)
      exact ⟨_, (List.take_append_drop size _).symm, spelled_of_symbolOf? found⟩
    · cases scanned

/-! ## What is cut off as a whole -/

/-- A doubled payload is read back up to the first mark that is not doubled. -/
theorem quotedForm?_doubled {mark : Char} (payload : List Char) {behind : List Char}
    (single : behind.head? ≠ some mark) :
    quotedForm? mark (doubled mark payload ++ mark :: behind) =
      some (payload, (doubled mark payload).length + 1, behind) := by
  induction payload with
  | nil =>
    cases behind with
    | nil => simp [doubled, quotedForm?]
    | cons d behind =>
      have notDoubled : d ≠ mark := fun doubles => single (congrArg some doubles)
      simp [doubled, quotedForm?, notDoubled]
  | cons c rest ih =>
    by_cases isMark : c = mark
    · subst isMark
      simp [doubled, quotedForm?, ih]
    · simp only [doubled, if_neg isMark, List.cons_append]
      rw [quotedForm?.eq_def]
      simp [isMark, ih]

theorem exponentOf_eq_self {text : List Char} (isExponent : ExponentText text) :
    exponentOf text = (text, []) := by
  cases isExponent with
  | none => rfl
  | @unsigned mark digits isMark some areDigits =>
    obtain ⟨digit, rest, rfl⟩ := List.exists_cons_of_ne_nil some
    obtain ⟨isDigit, others⟩ := List.forall_mem_cons.1 areDigits
    cases rest with
    | nil => simp [exponentOf, isMark, isDigit]
    | cons second rest =>
      have taken := List.takeWhile_eq_self_iff.2 areDigits
      have dropped := List.dropWhile_eq_nil_iff.2 areDigits
      simp [exponentOf, isMark, isDigit, taken, dropped]
  | @signed mark sign digits isMark isSign some areDigits =>
    obtain ⟨digit, rest, rfl⟩ := List.exists_cons_of_ne_nil some
    obtain ⟨isDigit, others⟩ := List.forall_mem_cons.1 areDigits
    have notDigit : sign.isDigit = false := by rcases isSign with rfl | rfl <;> rfl
    have taken := List.takeWhile_eq_self_iff.2 areDigits
    have dropped := List.dropWhile_eq_nil_iff.2 areDigits
    simp [exponentOf, isMark, isSign, notDigit, isDigit, taken, dropped]

theorem numberOf_eq_self {text : List Char} (isNumber : NumberText text) :
    numberOf text = (text, []) := by
  cases isNumber with
  | @whole digits exponent some areDigits isExponent =>
    have ends := isExponent.not_digit
    have noPoint : fractionOf exponent = ([], exponent) := fractionOf.eq_2 _ isExponent.ne_point
    rw [numberOf, takeWhile_digits areDigits ends, dropWhile_digits areDigits ends, noPoint,
      exponentOf_eq_self isExponent, List.append_nil]
  | @decimal digits decimals exponent some areDigits areDecimals isExponent =>
    have ends := isExponent.not_digit
    have point := point_not_digit (decimals ++ exponent)
    rw [numberOf, takeWhile_digits areDigits point, dropWhile_digits areDigits point, fractionOf,
      takeWhile_digits areDecimals ends, dropWhile_digits areDecimals ends,
      exponentOf_eq_self isExponent, List.append_assoc]
    rfl

/-- A number begins with a digit, or with a point and a digit. -/
theorem beginsNumber_of_numberText {number behind : List Char} (isNumber : NumberText number)
    {c : Char} {rest : List Char} (same : number ++ behind = c :: rest) :
    beginsNumber c rest = true := by
  unfold beginsNumber
  cases isNumber with
  | @whole digits exponent some areDigits _ =>
    obtain ⟨digit, others, rfl⟩ := List.exists_cons_of_ne_nil some
    obtain ⟨rfl, _⟩ := List.cons.inj same
    simp [areDigits digit (List.mem_cons_self ..)]
  | @decimal digits decimals exponent some areDigits areDecimals _ =>
    cases digits with
    | cons digit others =>
      obtain ⟨rfl, _⟩ := List.cons.inj same
      simp [areDigits digit (List.mem_cons_self ..)]
    | nil =>
      obtain ⟨rfl, rfl⟩ := List.cons.inj same
      obtain ⟨decimal, others, rfl⟩ := List.exists_cons_of_ne_nil some
      simp [areDecimals decimal (List.mem_cons_self ..)]

/-- The character with which a number begins. -/
theorem digit_or_point {c : Char} {rest : List Char} (begins : beginsNumber c rest = true) :
    c.isDigit = true ∨ c = '.' := by
  simp only [beginsNumber, Bool.or_eq_true, Bool.and_eq_true, beq_iff_eq] at begins
  exact begins.imp id And.left

/-- Any number begins with a digit or a point. -/
theorem head_of_numberText {text : List Char} (isNumber : NumberText text) :
    ∀ c ∈ text.head?, c.isDigit = true ∨ c = '.' := by
  intro c first
  obtain ⟨rest, same⟩ := List.head?_eq_some_iff.1 first
  exact digit_or_point (beginsNumber_of_numberText isNumber ((List.append_nil _).trans same))

/-- What a number begins with begins nothing else. -/
theorem not_begins_of_beginsNumber {c : Char} {rest : List Char}
    (begins : beginsNumber c rest = true) :
    c ≠ '\x27' ∧ c ≠ '"' ∧ Text.beginsWord c = false := by
  rcases digit_or_point begins with digit | rfl
  · refine ⟨?_, ?_, beginsWord_of_isDigit digit⟩ <;>
    · rintro rfl
      cases digit
  · decide

theorem scanQuoted_quoted (quotation : Quotation) (build : String → Token) (offset : Nat)
    (payload : List Char) :
    scanQuoted quotation quotation.mark build offset
        (doubled quotation.mark payload ++ [quotation.mark]) =
      .ok (build (String.ofList payload), ⟨offset + (quotation.quoted payload).length, []⟩) := by
  rw [scanQuoted, quotedForm?_doubled payload (by simp)]
  simp only [Quotation.quoted, List.length_cons, List.length_append, List.length_nil]
  congr 3
  omega

/-- The symbol may go on, and then it is a longer one that is found. -/
theorem symbolOf?_less (behind : List Char) : symbolOf? ('<' :: behind) ≠ none := by
  unfold symbolOf?
  split <;> simp_all

theorem symbolOf?_greater (behind : List Char) : symbolOf? ('>' :: behind) ≠ none := by
  unfold symbolOf?
  split <;> simp_all

/-- The lexer sees from the beginning of a spelling that a token is there. -/
theorem begins_of_spelled {token : Token} {span behind : List Char} (spelled : token.Spelled span)
    {c : Char} {rest : List Char} (same : span ++ behind = c :: rest) :
    c = '\x27' ∨ c = '"' ∨ Text.beginsWord c = true ∨ beginsNumber c rest = true ∨
      symbolOf? (c :: rest) ≠ none := by
  cases spelled with
  | identifier isWord | keyword isWord =>
    obtain ⟨⟨d, first, begins⟩, _⟩ := isWord
    obtain ⟨others, rfl⟩ := List.head?_eq_some_iff.1 first
    obtain ⟨rfl, _⟩ := List.cons.inj same
    exact Or.inr (Or.inr (Or.inl begins))
  | quotedIdentifier =>
    obtain ⟨rfl, _⟩ := List.cons.inj same
    exact Or.inr (Or.inl rfl)
  | string =>
    obtain ⟨rfl, _⟩ := List.cons.inj same
    exact Or.inl rfl
  | number isNumber =>
    exact Or.inr (Or.inr (Or.inr (Or.inl (beginsNumber_of_numberText isNumber same))))
  | symbol mark =>
    refine Or.inr (Or.inr (Or.inr (Or.inr ?_)))
    rw [← same]
    cases mark with
    | less => exact symbolOf?_less behind
    | greater => exact symbolOf?_greater behind
    | _ => exact nofun
  | unequal =>
    rw [← same]
    exact Or.inr (Or.inr (Or.inr (Or.inr nofun)))

end Lexer

/-- **A spelling that stands alone is cut off as a whole.** -/
theorem Token.Spelled.scan {token : Token} {c : Char} {rest : List Char}
    (spelled : token.Spelled (c :: rest)) (offset : Nat) :
    Lexer.scan offset c rest = .ok (token, ⟨offset + (c :: rest).length, []⟩) := by
  have word (isWord : IsWord (c :: rest)) : Lexer.scan offset c rest =
      .ok (.ofWord (c :: rest), ⟨offset + (c :: rest).length, []⟩) := by
    obtain ⟨⟨_, ⟨⟩, begins⟩, goesOn⟩ := isWord
    have notMark {mark : Char} (free : Text.beginsWord mark = false) : c ≠ mark := by
      rintro rfl
      exact absurd begins (by simp [free])
    rw [Lexer.scan, if_neg (notMark rfl), if_neg (notMark rfl), if_pos begins,
      List.takeWhile_eq_self_iff.2 goesOn, List.dropWhile_eq_nil_iff.2 goesOn]
  generalize same : c :: rest = text at spelled
  cases spelled with
  | identifier isWord free =>
    have none : Keyword.ofWord? text = none := by
      rw [Option.eq_none_iff_forall_ne_some]
      exact fun reserved spells => free reserved (Keyword.ofWord?_eq_some_iff.1 spells)
    subst same
    rw [word isWord, Token.ofWord, none]
  | keyword isWord capitals =>
    subst same
    rw [word isWord, Token.ofWord, Keyword.ofWord?_eq_some_iff.2 capitals]
  | quotedIdentifier payload =>
    obtain ⟨rfl, rfl⟩ := List.cons.inj same
    exact Lexer.scanQuoted_quoted .identifier .identifier offset payload
  | string payload =>
    obtain ⟨rfl, rfl⟩ := List.cons.inj same
    exact Lexer.scanQuoted_quoted .string .string offset payload
  | number isNumber =>
    subst same
    have begins := Lexer.beginsNumber_of_numberText isNumber (List.append_nil _)
    obtain ⟨notString, notQuoted, notWord⟩ := Lexer.not_begins_of_beginsNumber begins
    rw [Lexer.scan, if_neg notString, if_neg notQuoted, if_neg (by simp [notWord]), if_pos begins,
      Lexer.numberOf_eq_self isNumber]
  | symbol mark => cases mark <;> cases same <;> rfl
  | unequal =>
    cases same
    rfl

end Sift
