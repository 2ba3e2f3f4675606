import Mathlib.Data.List.TakeDrop
import Mathlib.Data.Nat.Digits.Defs
import Mathlib.Tactic.Ring
import Sift.Expression.Evaluation
import Sift.Proofs.Language.Assembly
import Sift.Proofs.Language.Blame
import Sift.Proofs.Language.Writing
import Sift.Proofs.Pattern.Direct

/-!
# Number literals

The lexer decides where a number ends, and never takes a sign into it; the parser decides what the
number is, and takes a minus sign that stands directly before it into the literal.  So digits alone
reach up to the greatest integer, and digits behind a minus sign down to the least one, which is
further from zero by one (`Parser.parse_integer_literals`).  A number with a point or an exponent
has the form that reading a float asks for, whatever its digits are, so it is never refused.
-/

set_option autoImplicit false

namespace Sift

/-! ## Reading integers -/

/-- The value of digits of the decimal system, written with the most significant one first. -/
def decimalValue (digits : List Char) : Nat :=
  Nat.ofDigits 10 (digits.reverse.map fun c => c.toNat - '0'.toNat)

namespace Number

theorem valueOf_eq (digits : List Char) : valueOf digits = decimalValue digits := by
  induction digits using List.reverseRecOn with
  | nil => rfl
  | append_singleton digits last ih =>
    rw [valueOf, List.foldl_append, ← valueOf, ih, decimalValue, decimalValue, List.reverse_append,
      List.reverse_singleton, List.singleton_append, List.map_cons, Nat.ofDigits_cons,
      List.foldl_cons, List.foldl_nil]
    push_cast
    ring

/-- Neither a digit nor a point is a sign. -/
theorem splitSign_unsigned {text : List Char}
    (begins : ∀ c ∈ text.head?, c.isDigit = true ∨ c = '.') : splitSign text = (false, text) := by
  unfold splitSign
  split
  · exact absurd (begins '-' rfl) (by decide)
  · exact absurd (begins '+' rfl) (by decide)
  · rfl

theorem isDigits_of_areDigits {digits : List Char} (nonempty : digits ≠ [])
    (areDigits : AreDigits digits) : isDigits digits = true := by
  rw [isDigits, List.all_eq_true.2 areDigits, Bool.and_true, Bool.not_eq_true',
    List.isEmpty_eq_false_iff]
  exact nonempty

theorem readInt?_digits {digits : List Char} (nonempty : digits ≠ []) (areDigits : AreDigits digits) :
    readInt? digits = some (decimalValue digits : Int) ∧
      readInt? ('-' :: digits) = some (-(decimalValue digits : Int)) ∧
      readInt? ('+' :: digits) = some (decimalValue digits : Int) := by
  have digits' := isDigits_of_areDigits nonempty areDigits
  have unsigned : splitSign digits = (false, digits) :=
    splitSign_unsigned fun c first => Or.inl (areDigits c (List.mem_of_head? first))
  rw [← valueOf_eq]
  refine ⟨?_, ?_, ?_⟩
  · simp [readInt?, unsigned, digits']
  · simp [readInt?, splitSign, digits']
  · simp [readInt?, splitSign, digits']

/-- An integer within the range of 64 bits is represented. -/
theorem int64?_inside {n : Int} (low : -2 ^ 63 ≤ n) (high : n ≤ 2 ^ 63 - 1) :
    ∃ k : Int64, k.toInt = n ∧ int64? n = some k := by
  refine ⟨.ofInt n, Int64.toInt_ofInt_of_le low (by omega), if_pos ⟨low, high⟩⟩

theorem int64?_outside {n : Int} (outside : n < -2 ^ 63 ∨ 2 ^ 63 - 1 < n) : int64? n = none := by
  refine if_neg fun inside => ?_
  have low : -2 ^ 63 ≤ n := inside.1
  have high : n ≤ 2 ^ 63 - 1 := inside.2
  omega

/-! ## Reading decimals -/

theorem exists_readExponent? {text : List Char} (isExponent : ExponentText text) :
    ∃ exponent, readExponent? text = some exponent := by
  cases isExponent with
  | none => exact ⟨0, rfl⟩
  | @unsigned mark digits isMark nonempty areDigits =>
    exact ⟨decimalValue digits, by simp [readExponent?, isMark, (readInt?_digits nonempty areDigits).1]⟩
  | @signed mark sign digits isMark isSign nonempty areDigits =>
    obtain ⟨_, minus, plus⟩ := readInt?_digits nonempty areDigits
    rcases isSign with rfl | rfl
    · exact ⟨decimalValue digits, by simp [readExponent?, isMark, plus]⟩
    · exact ⟨-decimalValue digits, by simp [readExponent?, isMark, minus]⟩

/-- Whatever has the form of a number can be read as a decimal. -/
theorem exists_readUnsigned? {text : List Char} (isNumber : NumberText text) :
    ∃ decimal, readUnsigned? text = some decimal := by
  cases isNumber with
  | @whole digits exponent nonempty areDigits isExponent =>
    have ends := isExponent.not_digit
    obtain ⟨value, read⟩ := exists_readExponent? isExponent
    unfold readUnsigned?
    simp only [List.span_eq_takeWhile_dropWhile, takeWhile_digits areDigits ends,
      dropWhile_digits areDigits ends]
    split
    · exact absurd rfl (isExponent.ne_point _)
    · exact ⟨⟨valueOf digits, value⟩, by simp [nonempty, read]⟩
  | @decimal digits decimals exponent nonempty areDigits areDecimals isExponent =>
    have ends := isExponent.not_digit
    have point := point_not_digit (decimals ++ exponent)
    obtain ⟨value, read⟩ := exists_readExponent? isExponent
    refine ⟨⟨valueOf (digits ++ decimals), value - decimals.length⟩, ?_⟩
    simp only [readUnsigned?, List.span_eq_takeWhile_dropWhile, takeWhile_digits areDigits point,
      dropWhile_digits areDigits point, takeWhile_digits areDecimals ends,
      dropWhile_digits areDecimals ends, read, Option.map_some]
    rw [if_neg]
    simpa using nonempty

/-- A number that is read as a float, with a minus sign in front or without, has a value. -/
theorem exists_readFloat? {text : List Char} (isNumber : NumberText text) :
    (∃ x, readFloat? text = some x) ∧ ∃ x, readFloat? ('-' :: text) = some x := by
  obtain ⟨decimal, read⟩ := exists_readUnsigned? isNumber
  have unsigned : splitSign text = (false, text) :=
    splitSign_unsigned (Lexer.head_of_numberText isNumber)
  constructor
  · exact ⟨decimal.toFloat, by simp [readFloat?, unsigned, read]⟩
  · exact ⟨-decimal.toFloat, by simp [readFloat?, splitSign, read]⟩

end Number

/-! ## Reading number texts -/

/-- A text with a point or the mark of an exponent. -/
def Marked (text : List Char) : Prop :=
  ∃ c ∈ text, c = '.' ∨ c = 'e' ∨ c = 'E'

namespace Parser

open Number (readInt64? readFloat?)

theorem any_marked {text : List Char} :
    (text.any fun c => c == '.' || c == 'e' || c == 'E') = true ↔ Marked text := by
  simp [Marked, or_assoc]

theorem numeral?_marked {text : String} (marked : Marked text.toList) :
    numeral? text = (readFloat? text.toList).map .float :=
  if_pos (any_marked.2 marked)

theorem numeral?_plain {text : String} (plain : ¬Marked text.toList) :
    numeral? text = (readInt64? text.toList).map .integer :=
  if_neg (mt any_marked.1 plain)

theorem not_marked_of_areDigits {digits : List Char} (areDigits : AreDigits digits) :
    ¬Marked digits := by
  rintro ⟨c, member, rfl | rfl | rfl⟩ <;> cases areDigits _ member

theorem toList_minus (text : String) : ("-" ++ text).toList = '-' :: text.toList := by
  simp

/-- A minus sign in front is neither a point nor the mark of an exponent. -/
theorem marked_minus {text : String} : Marked ("-" ++ text).toList ↔ Marked text.toList := by
  simp [Marked]

/-- **A number with a point or an exponent is never refused**, with a minus sign in front or
without. -/
theorem exists_numeral?_of_marked {text : String} (isNumber : NumberText text.toList)
    (marked : Marked text.toList) :
    (∃ x, numeral? text = some (.float x)) ∧ ∃ x, numeral? ("-" ++ text) = some (.float x) := by
  obtain ⟨⟨x, read⟩, ⟨y, readMinus⟩⟩ := Number.exists_readFloat? isNumber
  rw [numeral?_marked marked, numeral?_marked (marked_minus.2 marked), toList_minus, read,
    readMinus]
  exact ⟨⟨x, rfl⟩, y, rfl⟩

theorem numberText_of_areDigits {digits : List Char} (nonempty : digits ≠ [])
    (areDigits : AreDigits digits) : NumberText (String.ofList digits).toList := by
  have whole := NumberText.whole nonempty areDigits .none
  rwa [List.append_nil, ← @String.toList_ofList digits] at whole

/-- Digits are read as their value, behind a minus sign as the negative value, if it is within the
range. -/
theorem numeral?_digits {digits : List Char} (nonempty : digits ≠ []) (areDigits : AreDigits digits) :
    numeral? (String.ofList digits) = (Number.int64? (decimalValue digits)).map .integer ∧
      numeral? ("-" ++ String.ofList digits) =
        (Number.int64? (-(decimalValue digits : Int))).map .integer := by
  obtain ⟨unsigned, signed, _⟩ := Number.readInt?_digits nonempty areDigits
  have plain : ¬Marked (String.ofList digits).toList := by
    rw [String.toList_ofList]
    exact not_marked_of_areDigits areDigits
  rw [numeral?_plain plain, numeral?_plain (mt marked_minus.1 plain), toList_minus,
    String.toList_ofList, readInt64?, readInt64?, unsigned, signed]
  exact ⟨rfl, rfl⟩

end Parser

/-! ## Literals that stand alone -/

/-- An expression that is a single literal. -/
def Expression.single (content : Literal) : Expression :=
  ⟨#[⟨.literal content, [], none, ⟨.literal content, 1⟩⟩], 0, Nat.zero_lt_one⟩

theorem Expression.ofTerm_literal (content : Literal) :
    Expression.ofTerm (.literal content) = .ok (.single content) := by
  rw [Expression.ofTerm, Builder.insert]
  rfl

namespace Descent

variable {inner : Nested} {result : Except ParseError Grown} {stream : Parser.Stream}
  {position : Nat}

theorem chain_alone {operand : Rule} {operator? : Token → Option NodeKind}
    (reads : operand stream = result.map (·, ⟨position, []⟩)) :
    chain operand operator? stream = result.map (·, ⟨position, []⟩) := by
  rw [chain, reads]
  cases result with
  | error error => rfl
  | ok grown =>
    show chainFrom operand operator? grown ⟨position, []⟩ = _
    rw [chainFrom]
    rfl

variable [Engine]

/-- If there is nothing but a factor, it is all that a disjunction reads. -/
theorem disjunction_alone (positive : stream.rest.head? ≠ some (.keyword .not))
    (reads : factor inner stream = result.map (·, ⟨position, []⟩)) :
    disjunction inner stream = result.map (·, ⟨position, []⟩) := by
  have sum : sum inner stream = result.map (·, ⟨position, []⟩) := chain_alone (chain_alone reads)
  have test : test inner stream = result.map (·, ⟨position, []⟩) := by
    show (Descent.sum inner stream).bind _ = _
    rw [sum]
    cases result <;> rfl
  have negation : negation inner stream = result.map (·, ⟨position, []⟩) := by
    rw [Descent.negation, if_neg positive, test]
  exact chain_alone (chain_alone negation)

/-- If the tokens are those of one number literal, they are read as just that, or refused for its
text. -/
theorem parseExpression_number {tokens : List Token} {text : String}
    (positive : tokens.head? ≠ some (.keyword .not))
    (reads : ∀ inner : Nested,
      factor inner ⟨0, tokens⟩ = (numberLiteral text).map (·, ⟨position, []⟩)) :
    Parser.parseExpression tokens =
      match Parser.numeral? text with
      | some number => .ok (.single (.number number))
      | none => .error (.invalidNumber text) := by
  obtain ⟨levels, same⟩ : ∃ levels, maxDepth = levels + 1 := ⟨_, rfl⟩
  have read : (nested maxDepth).disjunction ⟨0, tokens⟩ =
      (numberLiteral text).map (·, ⟨position, []⟩) := by
    rw [same]
    exact disjunction_alone positive (reads _)
  rw [Parser.parseExpression_eq]
  show (((nested maxDepth).disjunction ⟨0, tokens⟩).bind _).bind _ = _
  rw [read, numberLiteral]
  cases Parser.numeral? text with
  | none => rfl
  | some number =>
    show (Expression.ofTerm (.literal (.number number))).mapError ParseError.build = _
    rw [Expression.ofTerm_literal]
    rfl

end Descent

/-! ## Cutting literals -/

namespace Lexer

theorem gap_of_blanks {blanks : List Char} (areBlank : ∀ c ∈ blanks, Text.isBlank c = true) :
    Gap blanks := by
  induction blanks with
  | nil => exact .nothing
  | cons c rest ih =>
    obtain ⟨first, others⟩ := List.forall_mem_cons.1 areBlank
    exact .blank first (ih others)

theorem tokenize_number {text : String} (isNumber : NumberText text.toList) :
    tokenize text = .ok [.number text] := by
  have cut := tokenize_intercalate (.cons (.number isNumber) .nil)
  rwa [String.intercalate_singleton] at cut

/-- A number begins with neither white space nor a sign, so no comment begins in front of it. -/
theorem head?_ne_minus {text blanks : List Char} (isNumber : NumberText text)
    (areBlank : ∀ c ∈ blanks, Text.isBlank c = true) : (blanks ++ text).head? ≠ some '-' := by
  intro second
  cases blanks with
  | nil => exact absurd (head_of_numberText isNumber '-' second) (by decide)
  | cons c rest =>
    obtain rfl := Option.some.inj second
    exact absurd (areBlank '-' (List.mem_cons_self ..)) (by decide)

/-- A minus sign and white space in front of a number are not part of it. -/
theorem tokenize_minus_number {text : String} (isNumber : NumberText text.toList)
    {blanks : List Char} (areBlank : ∀ c ∈ blanks, Text.isBlank c = true) :
    tokenize (String.ofList ('-' :: (blanks ++ text.toList))) =
      .ok [.symbol .minus, .number text] := by
  have sign : skipBlanks 0 ('-' :: (blanks ++ text.toList)) =
      ⟨0, '-' :: (blanks ++ text.toList)⟩ := by
    rw [skipBlanks, if_neg (by decide), if_neg]
    exact fun comment => head?_ne_minus isNumber areBlank comment.2
  have minus : scan 0 '-' (blanks ++ text.toList) =
      .ok (.symbol .minus, ⟨1, blanks ++ text.toList⟩) := rfl
  have skipped : lexFrom ⟨1, blanks ++ text.toList⟩ = lexFrom ⟨1 + blanks.length, text.toList⟩ :=
    lexFrom_congr ((gap_of_blanks areBlank).skipBlanks_append 1 text.toList)
  have number := lexFrom_written (.number isNumber) (Or.inl rfl) (1 + blanks.length)
  rw [List.append_nil] at number
  rw [tokenize, lex, String.toList_ofList, lexFrom_token sign minus, skipped, number,
    lexFrom_end rfl]
  rfl

/-- The numbers that the lexer cuts off have the form of numbers. -/
theorem numberText_of_mem_lex {text number : String} {offset : Nat}
    (member : (.number number, offset) ∈ (lex text).tokens) : NumberText number.toList := by
  obtain ⟨pieces, _, _, fit, tokens, _⟩ := lexFrom_tiles ⟨0, text.toList⟩
  rw [lex, tokens] at member
  obtain ⟨piece, inPieces, same⟩ := Piece.exists_of_mem_tokens member
  have spelled := (fit piece inPieces).spelled
  rw [same] at spelled
  cases spelled with
  | number isNumber => rwa [String.toList_ofList]

theorem numberText_of_tokenize {text number : String} {tokens : List Token}
    (cut : tokenize text = .ok tokens) (member : .number number ∈ tokens) :
    NumberText number.toList := by
  unfold tokenize at cut
  split at cut
  · obtain rfl := Except.ok.inj cut
    obtain ⟨⟨token, offset⟩, inLex, rfl⟩ := List.mem_map.1 member
    exact numberText_of_mem_lex inLex
  · cases cut

end Lexer

/-! ## Number literals -/

/-- The negation of an integer literal has the value of the opposite literal. -/
theorem Term.evaluate_negate_integer [Engine] (context : Context) {k opposite : Int64}
    (isOpposite : opposite.toInt = -k.toInt) :
    (Term.negate (.literal (.number (.integer k)))).evaluate context =
      (Term.literal (.number (.integer opposite))).evaluate context := by
  have same : opposite = -k := by
    rw [← Int64.ofInt_toInt opposite, isOpposite, Int64.ofInt_neg, Int64.ofInt_toInt]
  rw [same, evaluate, evaluate, evaluate]
  rfl

namespace Parser

section Texts

variable [Engine] {text : String} (isNumber : NumberText text.toList)
include isNumber

/-- A number alone is read as a literal, unless its text is refused. -/
theorem parse_number :
    parse text =
      match numeral? text with
      | some number => .ok (.single (.number number))
      | none => .error (.invalidNumber text) := by
  rw [parse, Lexer.tokenize_number isNumber]
  exact Descent.parseExpression_number nofun fun _ => rfl

/-- A number behind a minus sign is read as a literal, unless its text with the sign is refused. -/
theorem parse_minus_number {blanks : List Char}
    (areBlank : ∀ c ∈ blanks, Text.isBlank c = true) :
    parse (String.ofList ('-' :: (blanks ++ text.toList))) =
      match numeral? ("-" ++ text) with
      | some number => .ok (.single (.number number))
      | none => .error (.invalidNumber ("-" ++ text)) := by
  rw [parse, Lexer.tokenize_minus_number isNumber areBlank]
  exact Descent.parseExpression_number nofun fun _ => rfl

end Texts

/-- A text that was refused as a number has neither a point nor an exponent. -/
theorem not_marked_of_invalidNumber [Engine] {text word : String}
    (refused : parse text = .error (.invalidNumber word)) : ¬Marked word.toList := by
  intro marked
  unfold parse at refused
  cases cut : Lexer.tokenize text with
  | error error =>
    rw [cut] at refused
    cases refused
  | ok tokens =>
    rw [cut] at refused
    obtain ⟨unread, number, member, same⟩ := parseExpression_invalidNumber refused
    have isNumber := Lexer.numberText_of_tokenize cut member
    rcases same with rfl | rfl
    · obtain ⟨⟨x, read⟩, _⟩ := exists_numeral?_of_marked isNumber marked
      rw [read] at unread
      cases unread
    · obtain ⟨_, x, read⟩ := exists_numeral?_of_marked isNumber (marked_minus.1 marked)
      rw [read] at unread
      cases unread

section Digits

variable [Engine] {digits blanks : List Char} (nonempty : digits ≠ []) (areDigits : AreDigits digits)
include nonempty areDigits

/-- Digits alone are the literal of their value, if it is within the range. -/
theorem parse_digits :
    parse (String.ofList digits) =
      match Number.int64? (decimalValue digits) with
      | some k => .ok (.single (.number (.integer k)))
      | none => .error (.invalidNumber (String.ofList digits)) := by
  rw [parse_number (numberText_of_areDigits nonempty areDigits), (numeral?_digits nonempty areDigits).1]
  cases Number.int64? (decimalValue digits) <;> rfl

/-- Digits behind a minus sign are the literal of their negative value, if it is within the
range. -/
theorem parse_minus_digits (areBlank : ∀ c ∈ blanks, Text.isBlank c = true) :
    parse (String.ofList ('-' :: (blanks ++ digits))) =
      match Number.int64? (-(decimalValue digits : Int)) with
      | some k => .ok (.single (.number (.integer k)))
      | none => .error (.invalidNumber ("-" ++ String.ofList digits)) := by
  have read := parse_minus_number (numberText_of_areDigits nonempty areDigits) areBlank
  rw [String.toList_ofList, (numeral?_digits nonempty areDigits).2] at read
  rw [read]
  cases Number.int64? (-(decimalValue digits : Int)) <;> rfl

end Digits

variable [Engine]

/-- **Number literals are exact up to the ends of the range.**  Digits are read as the integer that
is their value if it is at most 2^63 - 1, and refused otherwise; behind a minus sign, and white
space, as the negative integer if the value is at most 2^63, and refused with the sign otherwise.
Where both are read, the negative literal has the value that negating the other one gives.  No
number with a point or an exponent is refused, as it is or behind a minus sign, in any text. -/
theorem parse_integer_literals {digits blanks : List Char} (nonempty : digits ≠ [])
    (areDigits : AreDigits digits) (areBlank : ∀ c ∈ blanks, Text.isBlank c = true) :
    let unsigned := parse (String.ofList digits)
    let signed := parse (String.ofList ('-' :: (blanks ++ digits)))
    (decimalValue digits ≤ 2 ^ 63 - 1 →
      ∃ k : Int64, k.toInt = decimalValue digits ∧
        unsigned = .ok (.single (.number (.integer k)))) ∧
    (2 ^ 63 - 1 < decimalValue digits →
      unsigned = .error (.invalidNumber (String.ofList digits))) ∧
    (decimalValue digits ≤ 2 ^ 63 →
      ∃ k : Int64, k.toInt = -decimalValue digits ∧
        signed = .ok (.single (.number (.integer k)))) ∧
    (2 ^ 63 < decimalValue digits →
      signed = .error (.invalidNumber ("-" ++ String.ofList digits))) ∧
    (∀ expression folded, unsigned = .ok expression → signed = .ok folded →
      ∀ context, (Term.negate expression.term).evaluate context = folded.term.evaluate context) ∧
    ∀ text,
      (∀ number offset, (.number number, offset) ∈ (Lexer.lex text).tokens →
        Marked number.toList →
        (∃ x, numeral? number = some (.float x)) ∧
          ∃ x, numeral? ("-" ++ number) = some (.float x)) ∧
      ∀ word, parse text = .error (.invalidNumber word) → ¬Marked word.toList := by
  intro unsigned signed
  have readUnsigned : unsigned = _ := parse_digits nonempty areDigits
  have readSigned : signed = _ := parse_minus_digits nonempty areDigits areBlank
  have inside (small : decimalValue digits ≤ 2 ^ 63 - 1) : ∃ k : Int64,
      k.toInt = decimalValue digits ∧ unsigned = .ok (.single (.number (.integer k))) := by
    obtain ⟨k, value, found⟩ := @Number.int64?_inside (decimalValue digits) (by omega) (by omega)
    exact ⟨k, value, by rw [readUnsigned, found]⟩
  have outside (large : 2 ^ 63 - 1 < decimalValue digits) :
      unsigned = .error (.invalidNumber (String.ofList digits)) := by
    rw [readUnsigned, Number.int64?_outside (by omega)]
  have insideMinus (small : decimalValue digits ≤ 2 ^ 63) : ∃ k : Int64,
      k.toInt = -decimalValue digits ∧ signed = .ok (.single (.number (.integer k))) := by
    obtain ⟨k, value, found⟩ := @Number.int64?_inside (-decimalValue digits) (by omega) (by omega)
    exact ⟨k, value, by rw [readSigned, found]⟩
  have outsideMinus (large : 2 ^ 63 < decimalValue digits) :
      signed = .error (.invalidNumber ("-" ++ String.ofList digits)) := by
    rw [readSigned, Number.int64?_outside (by omega)]
  refine ⟨inside, outside, insideMinus, outsideMinus, ?_, fun text => ⟨?_, ?_⟩⟩
  · intro expression folded read readMinus context
    have small : decimalValue digits ≤ 2 ^ 63 - 1 := by
      by_contra large
      rw [outside (by omega)] at read
      cases read
    obtain ⟨k, value, readUnsigned⟩ := inside small
    obtain ⟨opposite, valueMinus, readSigned⟩ := insideMinus (by omega)
    obtain rfl := Except.ok.inj (read.symm.trans readUnsigned)
    obtain rfl := Except.ok.inj (readMinus.symm.trans readSigned)
    exact Term.evaluate_negate_integer context (by rw [value, valueMinus])
  · intro number offset member marked
    exact exists_numeral?_of_marked (Lexer.numberText_of_mem_lex member) marked
  · intro word refused
    exact not_marked_of_invalidNumber refused

omit [Engine] in
/-- The least integer can be written, though the digits alone cannot be read. -/
theorem parse_integer_literals_least :
    @parse Engine.direct "09223372036854775808" =
        .error (.invalidNumber "09223372036854775808") ∧
      ∃ k : Int64, k.toInt = -2 ^ 63 ∧
        @parse Engine.direct "- \n09223372036854775808" =
          .ok (.single (.number (.integer k))) := by
  have areDigits : AreDigits ['0', '9', '2', '2', '3', '3', '7', '2', '0', '3', '6', '8', '5', '4',
      '7', '7', '5', '8', '0', '8'] := List.all_eq_true.1 rfl
  have value : decimalValue ['0', '9', '2', '2', '3', '3', '7', '2', '0', '3', '6', '8', '5', '4',
      '7', '7', '5', '8', '0', '8'] = 2 ^ 63 := by
    rw [← Number.valueOf_eq]
    decide
  have areBlank : ∀ c ∈ [' ', '\n'], Text.isBlank c = true := List.all_eq_true.1 rfl
  obtain ⟨_, outside, insideMinus, _⟩ :=
    @parse_integer_literals Engine.direct _ _ (List.cons_ne_nil _ _) areDigits areBlank
  rw [value] at outside insideMinus
  obtain ⟨k, least, read⟩ := insideMinus le_rfl
  exact ⟨outside (by decide), k, least, read⟩

end Parser

end Sift
