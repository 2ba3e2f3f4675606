import Sift.Proofs.Language.Lines
import Sift.Proofs.Language.Spelling

/-!
# Tokens tile the text

Every character of a text belongs to one token or to one gap between tokens.  A gap is made of
white space and of comments that end with their lines (`Lexer.Gap`); behind the last token a comment
may also end with the text (`Lexer.LastGap`).  So a text is a row of pieces, each a gap and the
spelling of a token, and what is left behind them is a gap again, or begins with a gap and the
character at which cutting has failed (`Lexer.lex_tiles`).
-/

set_option autoImplicit false

namespace Sift.Lexer

/-! ## Gaps -/

/-- White space and comments, each from two hyphens through the end of its line. -/
inductive Gap : List Char → Prop where
  | nothing : Gap []
  | blank {c : Char} {rest : List Char} (isBlank : Text.isBlank c = true) (gap : Gap rest) :
    Gap (c :: rest)
  | comment {line rest : List Char} (oneLine : '\n' ∉ line) (gap : Gap rest) :
    Gap ('-' :: '-' :: (line ++ '\n' :: rest))

/-- A gap at the end of a text, where the last comment need not end with a line break. -/
inductive LastGap : List Char → Prop where
  | gap {text : List Char} (gap : Gap text) : LastGap text
  | comment {gap line : List Char} (isGap : Gap gap) (oneLine : '\n' ∉ line) :
    LastGap (gap ++ '-' :: '-' :: line)

theorem Gap.append {first second : List Char} (gap : Gap first) (gap' : Gap second) :
    Gap (first ++ second) := by
  induction gap with
  | nothing => exact gap'
  | blank isBlank _ ih => exact .blank isBlank ih
  | @comment line rest oneLine _ ih =>
    have comment := Gap.comment oneLine ih
    simpa using comment

theorem LastGap.after {first second : List Char} (gap : Gap first) (last : LastGap second) :
    LastGap (first ++ second) := by
  cases last with
  | gap gap' => exact .gap (gap.append gap')
  | comment isGap oneLine =>
    rw [← List.append_assoc]
    exact .comment (gap.append isGap) oneLine

/-- A gap has been skipped in front of what is left, or all that was there. -/
def Skips (text rest : List Char) : Prop :=
  (rest = [] ∧ LastGap text) ∨ ∃ gap, Gap gap ∧ text = gap ++ rest

theorem Skips.after {first second rest : List Char} (gap : Gap first) (skips : Skips second rest) :
    Skips (first ++ second) rest := by
  rcases skips with ⟨rfl, last⟩ | ⟨gap', isGap, rfl⟩
  · exact Or.inl ⟨rfl, last.after gap⟩
  · exact Or.inr ⟨first ++ gap', gap.append isGap, (List.append_assoc ..).symm⟩

theorem Skips.comment {line second rest : List Char} (oneLine : '\n' ∉ line)
    (skips : Skips second rest) : Skips ('-' :: '-' :: (line ++ '\n' :: second)) rest := by
  have comment := skips.after (.comment oneLine .nothing)
  simpa using comment

mutual
/-- What is skipped is a gap. -/
theorem skips_skipBlanks (offset : Nat) :
    ∀ text : List Char, Skips text (skipBlanks offset text).rest
  | [] => Or.inl ⟨by simp only [skipBlanks], .gap .nothing⟩
  | c :: rest => by
    have blanks := skips_skipBlanks (offset + 1) rest
    have comment := skips_skipComment (offset + 1) rest
    unfold skipBlanks
    split_ifs with isBlank begins
    · exact blanks.after (.blank isBlank .nothing)
    · obtain ⟨rfl, second⟩ := begins
      rcases comment with ⟨oneLine, finished⟩ | ⟨line, behind, oneLine, rfl, skips⟩
      · obtain ⟨line, rfl⟩ := List.head?_eq_some_iff.1 second
        exact Or.inl ⟨finished, .comment .nothing (List.not_mem_of_not_mem_cons oneLine)⟩
      · cases line with
        | nil => cases second
        | cons d line =>
          obtain rfl := Option.some.inj second
          exact skips.comment (List.not_mem_of_not_mem_cons oneLine)
    · exact Or.inr ⟨[], .nothing, rfl⟩

/-- Of a comment its line is skipped, or all that is there. -/
theorem skips_skipComment (offset : Nat) :
    ∀ text : List Char, ('\n' ∉ text ∧ (skipComment offset text).rest = []) ∨
      ∃ line rest, '\n' ∉ line ∧ text = line ++ '\n' :: rest ∧
        Skips rest (skipComment offset text).rest
  | [] => Or.inl ⟨List.not_mem_nil, by simp only [skipComment]⟩
  | c :: rest => by
    have blanks := skips_skipBlanks (offset + 1) rest
    have comment := skips_skipComment (offset + 1) rest
    unfold skipComment
    split_ifs with isBreak
    · exact Or.inr ⟨[], rest, List.not_mem_nil, by rw [isBreak]; rfl, blanks⟩
    · rcases comment with ⟨oneLine, finished⟩ | ⟨line, behind, oneLine, rfl, skips⟩
      · exact Or.inl ⟨List.not_mem_cons_of_ne_of_not_mem (Ne.symm isBreak) oneLine, finished⟩
      · exact Or.inr ⟨c :: line, behind,
          List.not_mem_cons_of_ne_of_not_mem (Ne.symm isBreak) oneLine, rfl, skips⟩
end

section Skipped

variable {text : List Char} {start offset : Nat}

/-- Where blanks end with the text, it is a gap. -/
theorem lastGap_of_skipBlanks (blanks : skipBlanks start text = ⟨offset, []⟩) :
    LastGap text ∧ offset = start + text.length := by
  have skips := skips_skipBlanks start text
  have stop := stop_skipBlanks start text
  rw [blanks] at skips stop
  refine ⟨?_, stop⟩
  rcases skips with ⟨_, last⟩ | ⟨gap, isGap, same⟩
  · exact last
  · rw [same, List.append_nil]
    exact .gap isGap

/-- Where blanks end in front of a character, a gap stands before it. -/
theorem exists_gap_of_skipBlanks {c : Char} {rest : List Char}
    (blanks : skipBlanks start text = ⟨offset, c :: rest⟩) :
    ∃ gap, Gap gap ∧ text = gap ++ c :: rest ∧ offset = start + gap.length := by
  have skips := skips_skipBlanks start text
  have stop := stop_skipBlanks start text
  rw [blanks] at skips stop
  rcases skips with ⟨impossible, _⟩ | ⟨gap, isGap, rfl⟩
  · cases impossible
  · refine ⟨gap, isGap, rfl, ?_⟩
    rw [Cursor.stop, List.length_append, ← Nat.add_assoc] at stop
    exact Nat.add_right_cancel stop

end Skipped

theorem skipComment_line {line : List Char} (oneLine : '\n' ∉ line) (offset : Nat)
    (text : List Char) :
    skipComment offset (line ++ '\n' :: text) = skipBlanks (offset + line.length + 1) text := by
  induction line generalizing offset with
  | nil => rw [List.nil_append, skipComment, if_pos rfl, List.length_nil, Nat.add_zero]
  | cons c rest ih =>
    have notBreak : c ≠ '\n' := Ne.symm (List.ne_of_not_mem_cons oneLine)
    rw [List.cons_append, skipComment, if_neg notBreak,
      ih (List.not_mem_of_not_mem_cons oneLine), List.length_cons]
    congr 1
    omega

/-- **A gap is skipped as a whole.** -/
theorem Gap.skipBlanks_append {gap : List Char} (isGap : Gap gap) (offset : Nat)
    (text : List Char) :
    skipBlanks offset (gap ++ text) = skipBlanks (offset + gap.length) text := by
  induction isGap generalizing offset with
  | nothing => rfl
  | blank isBlank _ ih =>
    rw [List.cons_append, skipBlanks, if_pos isBlank, ih, List.length_cons]
    congr 1
    omega
  | @comment line rest oneLine _ ih =>
    have oneLine' : '\n' ∉ '-' :: line := List.not_mem_cons_of_ne_of_not_mem (by decide) oneLine
    have comment := skipComment_line oneLine' (offset + 1) (rest ++ text)
    rw [List.cons_append, skipBlanks, if_neg (by decide), if_pos ⟨rfl, rfl⟩]
    rw [show '-' :: (line ++ '\n' :: rest) ++ text = '-' :: line ++ '\n' :: (rest ++ text) by simp,
      comment, ih]
    simp only [List.length_cons, List.length_append]
    congr 1
    omega

/-! ## Pieces -/

/-- A gap and the token behind it, with its spelling. -/
structure Piece where
  gap : List Char
  token : Token
  span : List Char

/-- The part of a text that is a piece. -/
def Piece.text (piece : Piece) : List Char :=
  piece.gap ++ piece.span

/-- A gap and a spelling. -/
structure Piece.Fits (piece : Piece) : Prop where
  gap : Gap piece.gap
  span : piece.span ≠ []
  spelled : piece.token.Spelled piece.span

/-- The tokens of a row of pieces, each with the offset behind it. -/
def Piece.tokens (offset : Nat) : List Piece → List (Token × Nat)
  | [] => []
  | piece :: rest =>
    let behind := offset + piece.gap.length + piece.span.length
    (piece.token, behind) :: tokens behind rest

/-- No token can be cut off at the start of a text. -/
def Bare (text : List Char) : Prop :=
  ∀ (token : Token) (span : List Char), token.Spelled span → ¬ span <+: text

/-- The text behind the opening mark of a quoted form has no closing mark: every mark in it doubles
another. -/
def Unclosed (quotation : Quotation) (text : List Char) : Prop :=
  ∀ payload behind : List Char, text = doubled quotation.mark payload ++ quotation.mark :: behind →
    behind.head? = some quotation.mark

/-- How cutting ends in front of a text that has no other tokens. -/
inductive Ended (offset : Nat) (text : List Char) : Except Failure Nat → Prop where
  | finished (last : LastGap text) : Ended offset text (.ok (offset + text.length))
  | illegalCharacter {gap behind : List Char} {c : Char} (isGap : Gap gap)
    (same : text = gap ++ c :: behind) (bare : Bare (c :: behind)) :
    Ended offset text
      (.error ⟨.illegalCharacter c (offset + gap.length), offset + gap.length⟩)
  | unterminated {gap behind : List Char} {quotation : Quotation} (isGap : Gap gap)
    (same : text = gap ++ quotation.mark :: behind) (unclosed : Unclosed quotation behind) :
    Ended offset text
      (.error ⟨.unterminated quotation (offset + gap.length), offset + text.length⟩)

/-- A failure to cut off a token is about the character that is there. -/
theorem ended_of_scan {offset : Nat} {c : Char} {rest : List Char} {failure : Failure}
    (scanned : scan offset c rest = .error failure) :
    (failure = ⟨.illegalCharacter c offset, offset⟩ ∧ Bare (c :: rest)) ∨
      ∃ quotation : Quotation, c = quotation.mark ∧ Unclosed quotation rest ∧
        failure = ⟨.unterminated quotation offset, offset + (c :: rest).length⟩ := by
  have unterminated (quotation : Quotation) {build : String → Token} (isMark : c = quotation.mark)
      (scanned : scanQuoted quotation quotation.mark build offset rest = .error failure) :
      ∃ quotation : Quotation, c = quotation.mark ∧ Unclosed quotation rest ∧
        failure = ⟨.unterminated quotation offset, offset + (c :: rest).length⟩ := by
    unfold scanQuoted at scanned
    split at scanned
    · cases scanned
    · rename_i unread
      refine ⟨quotation, isMark, fun payload behind same => ?_, ?_⟩
      · by_contra single
        rw [same, quotedForm?_doubled payload single] at unread
        cases unread
      · rw [← Except.error.inj scanned, List.length_cons]
        congr 1
        omega
  unfold scan at scanned
  split_ifs at scanned with string quotedIdentifier word number
  · exact Or.inr (unterminated .string string scanned)
  · exact Or.inr (unterminated .identifier quotedIdentifier scanned)
  · split at scanned
    · cases scanned
    · rename_i symbol
      refine Or.inl ⟨(Except.error.inj scanned).symm, fun token span spelled ⟨behind, same⟩ => ?_⟩
      rcases begins_of_spelled spelled same with begins | begins | begins | begins | begins
      · exact string begins
      · exact quotedIdentifier begins
      · exact word begins
      · exact number begins
      · exact begins symbol

/-- **Cutting a text gives a row of pieces and says what is left behind them.** -/
theorem lexFrom_tiles (cursor : Cursor) :
    ∃ (pieces : List Piece) (rest : List Char),
      cursor.rest = pieces.flatMap Piece.text ++ rest ∧ (∀ piece ∈ pieces, piece.Fits) ∧
        (lexFrom cursor).tokens = Piece.tokens cursor.offset pieces ∧
        Ended (cursor.offset + (pieces.flatMap Piece.text).length) rest
          (lexFrom cursor).ending := by
  fun_induction lexFrom cursor with
  | case1 cursor offset blanks =>
    obtain ⟨last, rfl⟩ := lastGap_of_skipBlanks blanks
    exact ⟨[], cursor.rest, rfl, List.forall_mem_nil _, rfl, .finished last⟩
  | case2 cursor offset c rest blanks failure scanned =>
    obtain ⟨gap, isGap, same, rfl⟩ := exists_gap_of_skipBlanks blanks
    refine ⟨[], cursor.rest, rfl, List.forall_mem_nil _, rfl, ?_⟩
    rcases ended_of_scan scanned with ⟨rfl, bare⟩ | ⟨quotation, rfl, unclosed, rfl⟩
    · exact .illegalCharacter isGap same bare
    · have ended : Ended cursor.offset _ _ := .unterminated isGap same unclosed
      rw [same, List.length_append, ← Nat.add_assoc] at ended
      rw [same]
      exact ended
  | case3 cursor offset c rest blanks token next scanned shorter later ih =>
    obtain ⟨gap, isGap, same, rfl⟩ := exists_gap_of_skipBlanks blanks
    obtain ⟨span, whole, spelled⟩ := spelled_of_scan scanned
    obtain ⟨pieces, behind, tiled, fit, tokens, ended⟩ := ih
    have behindToken : next.offset = cursor.offset + gap.length + span.length := by
      have stop := stop_scan scanned
      rw [whole, Cursor.stop, List.length_append, ← Nat.add_assoc] at stop
      exact Nat.add_right_cancel stop
    refine ⟨⟨gap, token, span⟩ :: pieces, behind, ?_, ?_, ?_, ?_⟩
    · rw [same, whole, tiled, List.flatMap_cons, Piece.text]
      simp only [List.append_assoc]
    · exact List.forall_mem_cons.2 ⟨⟨isGap, spelled.ne_nil, spelled⟩, fit⟩
    · rw [Piece.tokens, ← behindToken, ← tokens]
    · rw [List.flatMap_cons, Piece.text, List.length_append, List.length_append]
      rwa [behindToken, Nat.add_assoc, Nat.add_assoc, ← Nat.add_assoc gap.length] at ended

theorem Piece.le_of_mem_tokens {offset : Nat} {pieces : List Piece} {token : Token × Nat}
    (member : token ∈ Piece.tokens offset pieces) :
    token.2 ≤ offset + (pieces.flatMap Piece.text).length := by
  induction pieces generalizing offset with
  | nil => cases member
  | cons piece rest ih =>
    rw [List.flatMap_cons, Piece.text, List.length_append, List.length_append]
    rcases List.mem_cons.1 member with rfl | later
    · show offset + piece.gap.length + piece.span.length ≤ _
      omega
    · have := ih later
      omega

theorem Piece.exists_of_mem_tokens {offset behind : Nat} {pieces : List Piece} {token : Token}
    (member : (token, behind) ∈ Piece.tokens offset pieces) :
    ∃ piece ∈ pieces, piece.token = token := by
  induction pieces generalizing offset with
  | nil => cases member
  | cons piece rest ih =>
    rcases List.mem_cons.1 member with same | later
    · exact ⟨piece, List.mem_cons_self .., (congrArg Prod.fst same).symm⟩
    · obtain ⟨piece', member', same⟩ := ih later
      exact ⟨piece', List.mem_cons_of_mem _ member', same⟩

/-- **Tokens tile the text.**  A text is a row of pieces, each a gap and a spelling of the next
token, up to a rest; the offset recorded with a token is that of the end of its spelling, which does
not lie behind the end of the text.  Where cutting comes to the end of the text, the rest is a gap
and the offset reached is the length of the text.  Else the rest is a gap in front of the character
at which cutting has failed.  If no token can be cut off there, the offset of that character is also
the one that was reached.  If it is the mark of a quoted form that is not closed, the end of the
text was reached. -/
theorem lex_tiles (text : String) :
    ∃ (pieces : List Piece) (rest : List Char),
      text.toList = pieces.flatMap Piece.text ++ rest ∧ (∀ piece ∈ pieces, piece.Fits) ∧
        (lex text).tokens = Piece.tokens 0 pieces ∧
        (∀ token ∈ (lex text).tokens, token.2 ≤ text.length) ∧
        match (lex text).ending with
        | .ok last => LastGap rest ∧ last = text.length
        | .error ⟨.illegalCharacter c offset, position⟩ =>
          position = offset ∧ ∃ gap behind, Gap gap ∧ rest = gap ++ c :: behind ∧
            Bare (c :: behind) ∧ offset = (pieces.flatMap Piece.text ++ gap).length
        | .error ⟨.unterminated quotation offset, position⟩ =>
          position = text.length ∧ ∃ gap behind, Gap gap ∧
            rest = gap ++ quotation.mark :: behind ∧ Unclosed quotation behind ∧
            offset = (pieces.flatMap Piece.text ++ gap).length := by
  obtain ⟨pieces, rest, tiled, fit, tokens, ended⟩ := lexFrom_tiles ⟨0, text.toList⟩
  have length : text.length = (pieces.flatMap Piece.text).length + rest.length := by
    rw [← String.length_toList, show text.toList = _ from tiled, List.length_append]
  refine ⟨pieces, rest, tiled, fit, tokens, fun token member => ?_, ?_⟩
  · rw [lex, tokens] at member
    have within : token.2 ≤ 0 + _ := Piece.le_of_mem_tokens member
    omega
  · rw [Nat.zero_add] at ended
    unfold lex
    generalize (lexFrom ⟨0, text.toList⟩).ending = ending at ended
    cases ended with
    | finished last => exact ⟨last, length.symm⟩
    | illegalCharacter isGap same bare =>
      exact ⟨rfl, _, _, isGap, same, bare, (List.length_append ..).symm⟩
    | unterminated isGap same unclosed =>
      exact ⟨length.symm, _, _, isGap, same, unclosed, (List.length_append ..).symm⟩

end Sift.Lexer
