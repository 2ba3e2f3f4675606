import Sift.Language.Error
import Sift.Text.Classes

/-!
# Cutting a text into tokens

Between tokens stand white space and comments, which run from two hyphens to the end of the line.
What follows is cut off by its first character: a quotation mark begins a quoted form, a letter a
word, a digit or a point before a digit a number, and anything else must be a symbol.

Each token records the offset behind it, and cutting ends with the offset of the end of the text or
of the place where it failed.  `scan_length` says that a token takes at least one character, so
cutting always comes to an end.
-/

namespace Sift.Lexer

/-- A place in a text: the offset and the characters from there on. -/
structure Cursor where
  offset : Nat
  rest : List Char
  deriving DecidableEq, Repr

/-! ## Blanks -/

mutual
/-- Skip white space and comments. -/
def skipBlanks (offset : Nat) : List Char → Cursor
  | [] => ⟨offset, []⟩
  | c :: rest =>
    if Text.isBlank c then skipBlanks (offset + 1) rest
    else if c = '-' ∧ rest.head? = some '-' then skipComment (offset + 1) rest
    else ⟨offset, c :: rest⟩

/-- Skip the rest of a line, and the blanks behind it. -/
def skipComment (offset : Nat) : List Char → Cursor
  | [] => ⟨offset, []⟩
  | c :: rest =>
    if c = '\n' then skipBlanks (offset + 1) rest else skipComment (offset + 1) rest
end

mutual
theorem skipBlanks_length (offset : Nat) :
    ∀ text : List Char, (skipBlanks offset text).rest.length ≤ text.length
  | [] => by simp [skipBlanks]
  | c :: rest => by
    have blanks := skipBlanks_length (offset + 1) rest
    have comment := skipComment_length (offset + 1) rest
    unfold skipBlanks
    split
    · exact Nat.le_succ_of_le blanks
    split
    · exact Nat.le_succ_of_le comment
    · exact Nat.le_refl _

theorem skipComment_length (offset : Nat) :
    ∀ text : List Char, (skipComment offset text).rest.length ≤ text.length
  | [] => by simp [skipComment]
  | c :: rest => by
    have blanks := skipBlanks_length (offset + 1) rest
    have comment := skipComment_length (offset + 1) rest
    unfold skipComment
    split
    · exact Nat.le_succ_of_le blanks
    · exact Nat.le_succ_of_le comment
end

/-! ## Quoted forms -/

/-- The payload of a quoted form after its opening mark, the number of characters up to and
including its closing mark, and the text behind it.  A doubled mark stands for one. -/
def quotedForm? (mark : Char) : List Char → Option (List Char × Nat × List Char)
  | [] => none
  | c :: rest =>
    if c = mark then
      match rest with
      | [] => some ([], 1, [])
      | d :: behind =>
        if d = mark then
          (quotedForm? mark behind).map fun (payload, size, behind) =>
            (mark :: payload, size + 2, behind)
        else some ([], 1, d :: behind)
    else
      (quotedForm? mark rest).map fun (payload, size, behind) => (c :: payload, size + 1, behind)

theorem quotedForm?_length {mark : Char} {text payload behind : List Char} {size : Nat}
    (read : quotedForm? mark text = some (payload, size, behind)) :
    behind.length + size = text.length := by
  fun_induction quotedForm? mark text generalizing payload size behind with
  | case1 => cases read
  | case2 => cases read; rfl
  | case3 rest inductionHypothesis =>
    obtain ⟨⟨innerPayload, innerSize, innerBehind⟩, inner, same⟩ := Option.map_eq_some_iff.1 read
    have := inductionHypothesis inner
    cases same
    simp only [List.length_cons]
    omega
  | case4 => cases read; rfl
  | case5 c rest notMark inductionHypothesis =>
    obtain ⟨⟨innerPayload, innerSize, innerBehind⟩, inner, same⟩ := Option.map_eq_some_iff.1 read
    have := inductionHypothesis inner
    cases same
    simp only [List.length_cons]
    omega

/-! ## Numbers -/

/-- An exponent, if digits follow its mark and sign. -/
def exponentOf : List Char → List Char × List Char
  | mark :: sign :: digit :: rest =>
    if mark == 'e' || mark == 'E' then
      if sign.isDigit then
        (mark :: (sign :: digit :: rest).takeWhile Char.isDigit,
          (sign :: digit :: rest).dropWhile Char.isDigit)
      else if (sign == '+' || sign == '-') && digit.isDigit then
        (mark :: sign :: (digit :: rest).takeWhile Char.isDigit,
          (digit :: rest).dropWhile Char.isDigit)
      else ([], mark :: sign :: digit :: rest)
    else ([], mark :: sign :: digit :: rest)
  | [mark, digit] =>
    if (mark == 'e' || mark == 'E') && digit.isDigit then ([mark, digit], [])
    else ([], [mark, digit])
  | text => ([], text)

/-- A point and the digits behind it, of which there may be none. -/
def fractionOf : List Char → List Char × List Char
  | '.' :: rest => ('.' :: rest.takeWhile Char.isDigit, rest.dropWhile Char.isDigit)
  | text => ([], text)

/-- A number: digits, perhaps a point and digits, perhaps an exponent. -/
def numberOf (text : List Char) : List Char × List Char :=
  let fraction := fractionOf (text.dropWhile Char.isDigit)
  let exponent := exponentOf fraction.2
  (text.takeWhile Char.isDigit ++ fraction.1 ++ exponent.1, exponent.2)

/-- Whether a number begins with a character, given what follows. -/
def beginsNumber (c : Char) (rest : List Char) : Bool :=
  c.isDigit || (c == '.' && rest.head?.any Char.isDigit)

theorem exponentOf_append (text : List Char) :
    (exponentOf text).1 ++ (exponentOf text).2 = text := by
  fun_cases exponentOf text <;> simp [List.takeWhile_append_dropWhile]

theorem fractionOf_append (text : List Char) :
    (fractionOf text).1 ++ (fractionOf text).2 = text := by
  fun_cases fractionOf text <;> simp [List.takeWhile_append_dropWhile]

/-- Nothing of a text is lost when a number is cut off. -/
theorem numberOf_append (text : List Char) : (numberOf text).1 ++ (numberOf text).2 = text := by
  simp only [numberOf, List.append_assoc, exponentOf_append, fractionOf_append,
    List.takeWhile_append_dropWhile]

theorem numberOf_ne_nil {c : Char} {rest : List Char} (begins : beginsNumber c rest = true) :
    (numberOf (c :: rest)).1 ≠ [] := by
  by_cases digit : c.isDigit = true
  · simp [numberOf, digit]
  · simp only [beginsNumber, digit, Bool.false_or, Bool.and_eq_true, beq_iff_eq] at begins
    rw [begins.1]
    simp [numberOf, fractionOf]

/-! ## Symbols -/

/-- The symbol at the start of a text, and how many characters it takes. -/
def symbolOf? : List Char → Option (Symbol × Nat)
  | '<' :: '=' :: _ => some (.lessEqual, 2)
  | '<' :: '>' :: _ => some (.notEqual, 2)
  | '<' :: _ => some (.less, 1)
  | '>' :: '=' :: _ => some (.greaterEqual, 2)
  | '>' :: _ => some (.greater, 1)
  | '!' :: '=' :: _ => some (.notEqual, 2)
  | '+' :: _ => some (.plus, 1)
  | '-' :: _ => some (.minus, 1)
  | '*' :: _ => some (.star, 1)
  | '/' :: _ => some (.slash, 1)
  | '%' :: _ => some (.percent, 1)
  | '=' :: _ => some (.equal, 1)
  | '(' :: _ => some (.leftParen, 1)
  | ')' :: _ => some (.rightParen, 1)
  | ',' :: _ => some (.comma, 1)
  | _ => none

theorem symbolOf?_pos {text : List Char} {symbol : Symbol} {size : Nat}
    (found : symbolOf? text = some (symbol, size)) : 0 < size := by
  fun_cases symbolOf? text <;> simp_all [symbolOf?] <;> omega

/-! ## One token -/

/-- A lexical error and the offset that was reached. -/
structure Failure where
  error : LexError
  position : Nat
  deriving DecidableEq, Repr

/-- Cut off a quoted form whose opening mark has been seen at an offset. -/
def scanQuoted (quotation : Quotation) (mark : Char) (token : String → Token) (offset : Nat)
    (rest : List Char) : Except Failure (Token × Cursor) :=
  match quotedForm? mark rest with
  | some (payload, size, behind) =>
    .ok (token (String.ofList payload), ⟨offset + 1 + size, behind⟩)
  | none => .error ⟨.unterminated quotation offset, offset + 1 + rest.length⟩

/-- Cut off the token that begins with a character. -/
def scan (offset : Nat) (c : Char) (rest : List Char) : Except Failure (Token × Cursor) :=
  if c = '\x27' then scanQuoted .string '\x27' .string offset rest
  else if c = '"' then scanQuoted .identifier '"' .identifier offset rest
  else if Text.beginsWord c then
    let word := (c :: rest).takeWhile Text.continuesWord
    .ok (.ofWord word, ⟨offset + word.length, (c :: rest).dropWhile Text.continuesWord⟩)
  else if beginsNumber c rest then
    let (number, behind) := numberOf (c :: rest)
    .ok (.number (String.ofList number), ⟨offset + number.length, behind⟩)
  else
    match symbolOf? (c :: rest) with
    | some (symbol, size) => .ok (.symbol symbol, ⟨offset + size, (c :: rest).drop size⟩)
    | none => .error ⟨.illegalCharacter c offset, offset⟩

theorem scanQuoted_length {quotation : Quotation} {mark : Char} {build : String → Token}
    {offset : Nat} {rest : List Char} {token : Token} {cursor : Cursor}
    (scanned : scanQuoted quotation mark build offset rest = .ok (token, cursor)) :
    cursor.rest.length ≤ rest.length := by
  unfold scanQuoted at scanned
  split at scanned
  · rename_i payload size behind read
    have := quotedForm?_length read
    simp only [Except.ok.injEq, Prod.mk.injEq] at scanned
    rw [← scanned.2]
    simp only
    omega
  · cases scanned

/-- A token takes at least one character. -/
theorem scan_length {offset : Nat} {c : Char} {rest : List Char} {token : Token} {cursor : Cursor}
    (scanned : scan offset c rest = .ok (token, cursor)) :
    cursor.rest.length < (c :: rest).length := by
  unfold scan at scanned
  split at scanned
  · exact Nat.lt_succ_of_le (scanQuoted_length scanned)
  split at scanned
  · exact Nat.lt_succ_of_le (scanQuoted_length scanned)
  split at scanned
  · rename_i begins
    simp only [Except.ok.injEq, Prod.mk.injEq] at scanned
    rw [← scanned.2, List.dropWhile_cons_of_pos (Text.continuesWord_of_beginsWord begins)]
    exact Nat.lt_succ_of_le (List.dropWhile_sublist _).length_le
  split at scanned
  · rename_i begins
    have whole := congrArg List.length (numberOf_append (c :: rest))
    have number := List.length_pos_iff.2 (numberOf_ne_nil begins)
    simp only [Except.ok.injEq, Prod.mk.injEq] at scanned
    rw [← scanned.2]
    simp only [List.length_append] at whole ⊢
    omega
  split at scanned
  · rename_i symbol size found
    have := symbolOf?_pos found
    simp only [Except.ok.injEq, Prod.mk.injEq] at scanned
    rw [← scanned.2]
    simp only [List.length_drop, List.length_cons]
    omega
  · cases scanned

/-! ## All tokens -/

/-- The tokens of a text, each with the offset behind it, and how cutting ended: at the end of the
text, whose offset is given, or by a failure. -/
structure Lexing where
  tokens : List (Token × Nat)
  ending : Except Failure Nat

/-- Cut the text at a cursor into tokens. -/
def lexFrom (cursor : Cursor) : Lexing :=
  match blanks : skipBlanks cursor.offset cursor.rest with
  | ⟨offset, []⟩ => ⟨[], .ok offset⟩
  | ⟨offset, c :: rest⟩ =>
    match scanned : scan offset c rest with
    | .error failure => ⟨[], .error failure⟩
    | .ok (token, next) =>
      have : next.rest.length < cursor.rest.length := by
        have skipped := skipBlanks_length cursor.offset cursor.rest
        rw [blanks] at skipped
        exact Nat.lt_of_lt_of_le (scan_length scanned) skipped
      let later := lexFrom next
      ⟨(token, next.offset) :: later.tokens, later.ending⟩
termination_by cursor.rest.length

/-- Cut a text into tokens. -/
def lex (text : String) : Lexing :=
  lexFrom ⟨0, text.toList⟩

/-- The tokens of a text, if it can be cut into tokens. -/
def tokenize (text : String) : Except LexError (List Token) :=
  match (lex text).ending with
  | .ok _ => .ok ((lex text).tokens.map Prod.fst)
  | .error failure => .error failure.error

end Sift.Lexer
