import Mathlib.Data.List.TakeWhile
import Sift.Language.Lexer

/-!
# Tokens in front of a separator

The lexer looks one or two characters ahead, for an exponent, a doubled mark or the rest of a
symbol.  A separator is a character that it is never looking for (`Lexer.Separates`), such as a
space or a line break.  Where one follows, a token is cut off as if the text had ended there
(`Lexer.scan_separated`).
-/

set_option autoImplicit false

namespace Sift.Lexer

/-- A character that ends every token but a quoted form: neither a word nor a number goes on with
it, it is no second half of a symbol, and it doubles no mark. -/
structure Separates (separator : Char) : Prop where
  word : Text.continuesWord separator = false
  digit : separator.isDigit = false
  other : separator ∉ ['.', 'e', 'E', '+', '-', '=', '>', '"', '\x27']

theorem separates_space : Separates ' ' :=
  ⟨by decide, by decide, by decide⟩

theorem separates_break : Separates '\n' :=
  ⟨by decide, by decide, by decide⟩

theorem symbolOf?_le {text : List Char} {symbol : Symbol} {size : Nat}
    (found : symbolOf? text = some (symbol, size)) : size ≤ text.length := by
  fun_cases symbolOf? text <;> simp_all [symbolOf?] <;> omega

section Spans

variable {p : Char → Bool} {separator : Char} (ends : p separator = false) (behind : List Char)
include ends

theorem takeWhile_separated (text : List Char) :
    (text ++ separator :: behind).takeWhile p = text.takeWhile p := by
  induction text with
  | nil => simp [ends]
  | cons c rest ih =>
    rw [List.cons_append, List.takeWhile_cons, List.takeWhile_cons, ih]

theorem dropWhile_separated (text : List Char) :
    (text ++ separator :: behind).dropWhile p = text.dropWhile p ++ separator :: behind := by
  induction text with
  | nil => simp [ends]
  | cons c rest ih =>
    rw [List.cons_append, List.dropWhile_cons, List.dropWhile_cons, ih]
    split_ifs <;> rfl

end Spans

theorem quotedForm?_separated {mark separator : Char} (notMark : mark ≠ separator)
    (further : List Char) {text payload behind : List Char} {size : Nat}
    (read : quotedForm? mark text = some (payload, size, behind)) :
    quotedForm? mark (text ++ separator :: further) =
      some (payload, size, behind ++ separator :: further) := by
  fun_induction quotedForm? mark text generalizing payload size behind with
  | case1 => cases read
  | case2 =>
    cases read
    simp [quotedForm?, Ne.symm notMark]
  | case3 rest ih =>
    obtain ⟨⟨innerPayload, innerSize, innerBehind⟩, inner, same⟩ := Option.map_eq_some_iff.1 read
    cases same
    simp [quotedForm?, ih inner]
  | case4 d behind' notDoubled =>
    cases read
    simp [quotedForm?, notDoubled]
  | case5 c rest different ih =>
    obtain ⟨⟨innerPayload, innerSize, innerBehind⟩, inner, same⟩ := Option.map_eq_some_iff.1 read
    cases same
    rw [List.cons_append, quotedForm?.eq_def]
    dsimp only
    rw [if_neg different, ih inner]
    rfl

section Separator

variable {separator : Char} (separates : Separates separator)
include separates

theorem fractionOf_separated (text behind : List Char) :
    fractionOf (text ++ separator :: behind) =
      ((fractionOf text).1, (fractionOf text).2 ++ separator :: behind) := by
  fun_cases fractionOf text with
  | case1 rest =>
    simp only [List.cons_append, fractionOf, takeWhile_separated separates.digit,
      dropWhile_separated separates.digit]
  | case2 text noPoint =>
    cases text with
    | nil =>
      rw [List.nil_append, fractionOf]
      rintro _ ⟨⟩
      exact separates.other (by decide)
    | cons c rest =>
      rw [List.cons_append, fractionOf]
      rintro _ ⟨⟩
      exact noPoint rest rfl

theorem exponentOf_separated (text behind : List Char) :
    exponentOf (text ++ separator :: behind) =
      ((exponentOf text).1, (exponentOf text).2 ++ separator :: behind) := by
  have notDigit := separates.digit
  have other := separates.other
  simp only [List.mem_cons, List.not_mem_nil, or_false, not_or] at other
  rcases text with _ | ⟨mark, _ | ⟨sign, _ | ⟨digit, rest⟩⟩⟩
  · rcases behind with _ | ⟨second, _ | ⟨third, rest⟩⟩ <;> simp [exponentOf, other]
  · rcases behind with _ | ⟨second, rest⟩ <;> simp [exponentOf, notDigit, other]
  · by_cases isMark : (mark == 'e' || mark == 'E') = true <;>
      by_cases isDigit : sign.isDigit = true <;> simp [exponentOf, isMark, isDigit, notDigit]
  · have taken := takeWhile_separated notDigit behind
    have dropped := dropWhile_separated notDigit behind
    simp only [List.cons_append, exponentOf]
    rw [← List.cons_append, ← List.cons_append, taken, dropped, taken, dropped]
    split_ifs <;> rfl

/-- A number ends in front of a separator. -/
theorem numberOf_separated (text behind : List Char) :
    numberOf (text ++ separator :: behind) =
      ((numberOf text).1, (numberOf text).2 ++ separator :: behind) := by
  simp only [numberOf, takeWhile_separated separates.digit, dropWhile_separated separates.digit,
    fractionOf_separated separates, exponentOf_separated separates]

theorem symbolOf?_separated {text : List Char} {symbol : Symbol} {size : Nat}
    (found : symbolOf? text = some (symbol, size)) (behind : List Char) :
    symbolOf? (text ++ separator :: behind) = some (symbol, size) := by
  have other := separates.other
  simp only [List.mem_cons, List.not_mem_nil, or_false, not_or] at other
  fun_cases symbolOf? text with
  | case3 rest notEqual notGreater =>
    cases (symbolOf?.eq_3 rest notEqual notGreater).symm.trans found
    cases rest with
    | nil =>
      rw [List.cons_append, List.nil_append, symbolOf?]
      · rintro _ ⟨⟩
        simp at other
      · rintro _ ⟨⟩
        simp at other
    | cons c rest =>
      rw [List.cons_append, List.cons_append, symbolOf?]
      · rintro _ ⟨⟩
        exact notEqual rest rfl
      · rintro _ ⟨⟩
        exact notGreater rest rfl
  | case5 rest notEqual =>
    cases (symbolOf?.eq_5 rest notEqual).symm.trans found
    cases rest with
    | nil =>
      rw [List.cons_append, List.nil_append, symbolOf?]
      rintro _ ⟨⟩
      simp at other
    | cons c rest =>
      rw [List.cons_append, List.cons_append, symbolOf?]
      rintro _ ⟨⟩
      exact notEqual rest rfl
  | case16 => simp_all [symbolOf?]
  | _ =>
    cases found
    rfl

theorem beginsNumber_separated (c : Char) (rest behind : List Char) :
    beginsNumber c (rest ++ separator :: behind) = beginsNumber c rest := by
  cases rest with
  | nil => simp [beginsNumber, separates.digit]
  | cons d rest => rfl

omit separates in
theorem scanQuoted_separated {quotation : Quotation} {mark : Char} (notMark : mark ≠ separator)
    {build : String → Token} {offset : Nat} {rest : List Char} {token : Token} {next : Cursor}
    (scanned : scanQuoted quotation mark build offset rest = .ok (token, next))
    (behind : List Char) :
    scanQuoted quotation mark build offset (rest ++ separator :: behind) =
      .ok (token, ⟨next.offset, next.rest ++ separator :: behind⟩) := by
  unfold scanQuoted at scanned ⊢
  split at scanned
  · rename_i read
    obtain ⟨rfl, rfl⟩ := Prod.mk.inj (Except.ok.inj scanned)
    rw [quotedForm?_separated notMark behind read]
  · cases scanned

/-- **A token is cut off in the same way if a separator follows.** -/
theorem scan_separated {offset : Nat} {c : Char} {rest : List Char} {token : Token} {next : Cursor}
    (scanned : scan offset c rest = .ok (token, next)) (behind : List Char) :
    scan offset c (rest ++ separator :: behind) =
      .ok (token, ⟨next.offset, next.rest ++ separator :: behind⟩) := by
  have notMark {mark : Char} (isMark : mark ∈ ['"', '\x27']) : mark ≠ separator := by
    rintro rfl
    exact separates.other (List.mem_append_right ['.', 'e', 'E', '+', '-', '=', '>'] isMark)
  unfold scan at scanned ⊢
  rw [beginsNumber_separated separates, ← List.cons_append]
  split_ifs at scanned ⊢
  · exact scanQuoted_separated (notMark (by decide)) scanned behind
  · exact scanQuoted_separated (notMark (by decide)) scanned behind
  · obtain ⟨rfl, rfl⟩ := Prod.mk.inj (Except.ok.inj scanned)
    rw [takeWhile_separated separates.word, dropWhile_separated separates.word]
  · rw [numberOf_separated separates]
    generalize numberOf (c :: rest) = cut at scanned
    obtain ⟨rfl, rfl⟩ := Prod.mk.inj (Except.ok.inj scanned)
    rfl
  · split at scanned
    · rename_i symbol size found
      obtain ⟨rfl, rfl⟩ := Prod.mk.inj (Except.ok.inj scanned)
      rw [symbolOf?_separated separates found behind,
        ← List.drop_append_of_le_length (symbolOf?_le found)]
    · cases scanned

end Separator

end Sift.Lexer
