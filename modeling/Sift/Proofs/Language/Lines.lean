import Sift.Proofs.Language.Separation

/-!
# Cutting a text line by line

A line break ends every token and every comment before it, and nothing but an open quotation goes
on behind it.  So where a text can be cut into tokens, more text may follow behind a line break:
first come the tokens of the one and then those of the other (`tokenize_line`).

Two laws make this up.  A line break is a separator, so what the lexer cuts off in front of it stays
the same (`scan_separated`).  And the lexer never looks at its own offsets, so a text that stands
later is cut in the same way, with all offsets later by as much (`lexFrom_later`).
-/

set_option autoImplicit false

namespace Sift

/-- The same error in a text that stands later. -/
def LexError.later (distance : Nat) : LexError → LexError
  | illegalCharacter character offset => illegalCharacter character (offset + distance)
  | unterminated quotation offset => unterminated quotation (offset + distance)

namespace Lexer

/-! ## Texts that stand later -/

/-- The same place in a text that stands later. -/
def Cursor.later (distance : Nat) (cursor : Cursor) : Cursor :=
  ⟨cursor.offset + distance, cursor.rest⟩

/-- The same failure in a text that stands later. -/
def Failure.later (distance : Nat) (failure : Failure) : Failure :=
  ⟨failure.error.later distance, failure.position + distance⟩

/-- The same tokens and the same ending in a text that stands later. -/
def Lexing.later (distance : Nat) (lexing : Lexing) : Lexing :=
  ⟨lexing.tokens.map fun (token, offset) => (token, offset + distance),
    (lexing.ending.map (· + distance)).mapError (Failure.later distance)⟩

mutual
theorem skipBlanks_later (offset distance : Nat) :
    ∀ text : List Char,
      skipBlanks (offset + distance) text = (skipBlanks offset text).later distance
  | [] => by simp only [skipBlanks, Cursor.later]
  | c :: rest => by
    have blanks := skipBlanks_later (offset + 1) distance rest
    have comment := skipComment_later (offset + 1) distance rest
    rw [Nat.add_right_comm] at blanks comment
    unfold skipBlanks
    split_ifs
    · exact blanks
    · exact comment
    · rfl

theorem skipComment_later (offset distance : Nat) :
    ∀ text : List Char,
      skipComment (offset + distance) text = (skipComment offset text).later distance
  | [] => by simp only [skipComment, Cursor.later]
  | c :: rest => by
    have blanks := skipBlanks_later (offset + 1) distance rest
    have comment := skipComment_later (offset + 1) distance rest
    rw [Nat.add_right_comm] at blanks comment
    unfold skipComment
    split_ifs
    · exact blanks
    · exact comment
end

theorem scanQuoted_later (quotation : Quotation) (mark : Char) (build : String → Token)
    (offset distance : Nat) (rest : List Char) :
    scanQuoted quotation mark build (offset + distance) rest =
      ((scanQuoted quotation mark build offset rest).map fun (token, next) =>
        (token, next.later distance)).mapError (Failure.later distance) := by
  unfold scanQuoted
  rcases quotedForm? mark rest with _ | ⟨payload, size, behind⟩
  · simp only [Except.map, Except.mapError, Failure.later, LexError.later]
    congr 2
    omega
  · simp only [Except.map, Except.mapError, Cursor.later]
    congr 3
    omega

theorem scan_later (offset distance : Nat) (c : Char) (rest : List Char) :
    scan (offset + distance) c rest =
      ((scan offset c rest).map fun (token, next) => (token, next.later distance)).mapError
        (Failure.later distance) := by
  unfold scan
  split_ifs
  · exact scanQuoted_later ..
  · exact scanQuoted_later ..
  · simp only [Except.map, Except.mapError, Cursor.later, Nat.add_right_comm offset distance]
  · simp only [Except.map, Except.mapError, Cursor.later, Nat.add_right_comm offset distance]
  · rcases symbolOf? (c :: rest) with _ | ⟨symbol, size⟩
    · rfl
    · simp only [Except.map, Except.mapError, Cursor.later, Nat.add_right_comm offset distance]

/-! ## One step of cutting -/

section Steps

variable {cursor next : Cursor} {offset : Nat} {c : Char} {rest : List Char}

theorem lexFrom_end (blanks : skipBlanks cursor.offset cursor.rest = ⟨offset, []⟩) :
    lexFrom cursor = ⟨[], .ok offset⟩ := by
  rw [lexFrom]
  split
  · rename_i offset' blanks'
    cases blanks.symm.trans blanks'
    rfl
  · rename_i blanks'
    cases blanks.symm.trans blanks'

variable (blanks : skipBlanks cursor.offset cursor.rest = ⟨offset, c :: rest⟩)
include blanks

theorem lexFrom_error {failure : Failure} (scanned : scan offset c rest = .error failure) :
    lexFrom cursor = ⟨[], .error failure⟩ := by
  rw [lexFrom]
  split
  · rename_i blanks'
    cases blanks.symm.trans blanks'
  · rename_i blanks'
    cases blanks.symm.trans blanks'
    split
    · rename_i scanned'
      cases scanned.symm.trans scanned'
      rfl
    · rename_i scanned'
      cases scanned.symm.trans scanned'

theorem lexFrom_token {token : Token} (scanned : scan offset c rest = .ok (token, next)) :
    lexFrom cursor = ⟨(token, next.offset) :: (lexFrom next).tokens, (lexFrom next).ending⟩ := by
  rw [lexFrom]
  split
  · rename_i blanks'
    cases blanks.symm.trans blanks'
  · rename_i blanks'
    cases blanks.symm.trans blanks'
    split
    · rename_i scanned'
      cases scanned.symm.trans scanned'
    · rename_i scanned'
      cases scanned.symm.trans scanned'
      rfl

end Steps

/-- **A text that stands later is cut in the same way.** -/
theorem lexFrom_later (distance : Nat) (cursor : Cursor) :
    lexFrom (cursor.later distance) = (lexFrom cursor).later distance := by
  have skipped : skipBlanks (cursor.later distance).offset (cursor.later distance).rest =
      (skipBlanks cursor.offset cursor.rest).later distance := skipBlanks_later ..
  fun_induction lexFrom cursor with
  | case1 cursor offset blanks =>
    rw [blanks] at skipped
    exact lexFrom_end skipped
  | case2 cursor offset c rest blanks failure scanned =>
    rw [blanks] at skipped
    refine lexFrom_error skipped ?_
    rw [scan_later, scanned]
    rfl
  | case3 cursor offset c rest blanks token next scanned shorter later ih =>
    rw [blanks] at skipped
    have scannedLater : scan (offset + distance) c rest = .ok (token, next.later distance) := by
      rw [scan_later, scanned]
      rfl
    rw [lexFrom_token skipped scannedLater, ih (skipBlanks_later ..)]
    rfl

/-! ## Where a text ends -/

/-- The offset of the end of the text. -/
def Cursor.stop (cursor : Cursor) : Nat :=
  cursor.offset + cursor.rest.length

mutual
theorem stop_skipBlanks (offset : Nat) :
    ∀ text : List Char, (skipBlanks offset text).stop = offset + text.length
  | [] => by simp only [skipBlanks, Cursor.stop]
  | c :: rest => by
    have blanks := stop_skipBlanks (offset + 1) rest
    have comment := stop_skipComment (offset + 1) rest
    unfold skipBlanks
    rw [List.length_cons]
    split_ifs
    · omega
    · omega
    · rfl

theorem stop_skipComment (offset : Nat) :
    ∀ text : List Char, (skipComment offset text).stop = offset + text.length
  | [] => by simp only [skipComment, Cursor.stop]
  | c :: rest => by
    have blanks := stop_skipBlanks (offset + 1) rest
    have comment := stop_skipComment (offset + 1) rest
    unfold skipComment
    rw [List.length_cons]
    split_ifs
    · omega
    · omega
end

theorem stop_scanQuoted {quotation : Quotation} {mark : Char} {build : String → Token}
    {offset : Nat} {rest : List Char} {token : Token} {next : Cursor}
    (scanned : scanQuoted quotation mark build offset rest = .ok (token, next)) :
    next.stop = offset + 1 + rest.length := by
  unfold scanQuoted at scanned
  split at scanned
  · rename_i payload size behind read
    have := quotedForm?_length read
    obtain ⟨rfl, rfl⟩ := Prod.mk.inj (Except.ok.inj scanned)
    simp only [Cursor.stop]
    omega
  · cases scanned

/-- A token is cut off in front of what is left. -/
theorem stop_scan {offset : Nat} {c : Char} {rest : List Char} {token : Token} {next : Cursor}
    (scanned : scan offset c rest = .ok (token, next)) :
    next.stop = offset + (c :: rest).length := by
  unfold scan at scanned
  split_ifs at scanned
  · rw [stop_scanQuoted scanned, List.length_cons]
    omega
  · rw [stop_scanQuoted scanned, List.length_cons]
    omega
  · have whole := congrArg List.length
      (List.takeWhile_append_dropWhile (p := Text.continuesWord) (l := c :: rest))
    obtain ⟨rfl, rfl⟩ := Prod.mk.inj (Except.ok.inj scanned)
    rw [List.length_append] at whole
    simp only [Cursor.stop]
    omega
  · have whole := congrArg List.length (numberOf_append (c :: rest))
    generalize numberOf (c :: rest) = cut at whole scanned
    obtain ⟨rfl, rfl⟩ := Prod.mk.inj (Except.ok.inj scanned)
    rw [List.length_append] at whole
    simp only [Cursor.stop]
    omega
  · split at scanned
    · rename_i symbol size found
      have := symbolOf?_le found
      obtain ⟨rfl, rfl⟩ := Prod.mk.inj (Except.ok.inj scanned)
      simp only [Cursor.stop, List.length_drop]
      omega
    · cases scanned

/-- Cutting that does not fail ends where the text does. -/
theorem lexFrom_stop {cursor : Cursor} {last : Nat} (ended : (lexFrom cursor).ending = .ok last) :
    last = cursor.stop := by
  have skipped := stop_skipBlanks cursor.offset cursor.rest
  fun_induction lexFrom cursor with
  | case1 cursor offset blanks =>
    rw [blanks] at skipped
    obtain rfl := Except.ok.inj ended
    exact skipped
  | case2 => cases ended
  | case3 cursor offset c rest blanks token next scanned shorter later ih =>
    rw [blanks] at skipped
    rw [ih ended (stop_skipBlanks ..), stop_scan scanned]
    exact skipped

/-! ## A line break behind a text -/

/-- The same place in a text that goes on behind a line break. -/
def Cursor.continued (behind : List Char) (cursor : Cursor) : Cursor :=
  ⟨cursor.offset, cursor.rest ++ '\n' :: behind⟩

/-- Where the blanks end in a text that goes on behind a line break: at the same place, unless only
blanks were left, and then behind the blanks of the next line. -/
def Cursor.skipBreak (behind : List Char) : Cursor → Cursor
  | ⟨last, []⟩ => skipBlanks (last + 1) behind
  | ⟨offset, c :: rest⟩ => ⟨offset, c :: (rest ++ '\n' :: behind)⟩

mutual
theorem skipBlanks_continued (offset : Nat) (behind : List Char) :
    ∀ text : List Char,
      skipBlanks offset (text ++ '\n' :: behind) = (skipBlanks offset text).skipBreak behind
  | [] => by
    rw [List.nil_append, skipBlanks, skipBlanks, Cursor.skipBreak]
    exact if_pos rfl
  | c :: rest => by
    have blanks := skipBlanks_continued (offset + 1) behind rest
    have comment := skipComment_continued (offset + 1) behind rest
    have ahead : (rest ++ '\n' :: behind).head? = some '-' ↔ rest.head? = some '-' := by
      cases rest <;> simp
    rw [List.cons_append, skipBlanks, skipBlanks]
    simp only [ahead]
    split_ifs
    · exact blanks
    · exact comment
    · rfl

theorem skipComment_continued (offset : Nat) (behind : List Char) :
    ∀ text : List Char,
      skipComment offset (text ++ '\n' :: behind) = (skipComment offset text).skipBreak behind
  | [] => by
    rw [List.nil_append, skipComment, skipComment, Cursor.skipBreak]
    exact if_pos rfl
  | c :: rest => by
    have blanks := skipBlanks_continued (offset + 1) behind rest
    have comment := skipComment_continued (offset + 1) behind rest
    rw [List.cons_append, skipComment, skipComment]
    split_ifs
    · exact blanks
    · exact comment
end

/-! ## All lines -/

/-- Only what follows the blanks at a place decides how the text is cut from there. -/
theorem lexFrom_congr {cursor cursor' : Cursor}
    (same : skipBlanks cursor.offset cursor.rest = skipBlanks cursor'.offset cursor'.rest) :
    lexFrom cursor = lexFrom cursor' := by
  rcases blanks : skipBlanks cursor.offset cursor.rest with ⟨offset, _ | ⟨c, rest⟩⟩
  · rw [lexFrom_end blanks, lexFrom_end (same.symm.trans blanks)]
  · rcases scanned : scan offset c rest with failure | ⟨token, next⟩
    · rw [lexFrom_error blanks scanned, lexFrom_error (same.symm.trans blanks) scanned]
    · rw [lexFrom_token blanks scanned, lexFrom_token (same.symm.trans blanks) scanned]

/-- **Behind a line break cutting starts afresh**, if it has come to the end of the text before. -/
theorem lexFrom_continued {cursor : Cursor} {last : Nat}
    (ended : (lexFrom cursor).ending = .ok last) (behind : List Char) :
    lexFrom (cursor.continued behind) =
      ⟨(lexFrom cursor).tokens ++ (lexFrom ⟨last + 1, behind⟩).tokens,
        (lexFrom ⟨last + 1, behind⟩).ending⟩ := by
  have skipped : skipBlanks (cursor.continued behind).offset (cursor.continued behind).rest =
      (skipBlanks cursor.offset cursor.rest).skipBreak behind := skipBlanks_continued ..
  fun_induction lexFrom cursor with
  | case1 cursor offset blanks =>
    rw [blanks] at skipped
    obtain rfl := Except.ok.inj ended
    exact lexFrom_congr skipped
  | case2 => cases ended
  | case3 cursor offset c rest blanks token next scanned shorter later ih =>
    rw [blanks] at skipped
    have scannedAgain : scan offset c (rest ++ '\n' :: behind) =
        .ok (token, next.continued behind) :=
      scan_separated separates_break scanned behind
    rw [lexFrom_token skipped scannedAgain, ih ended (skipBlanks_continued ..)]
    rfl

/-- A text that can be cut into tokens is followed by the tokens of the next line, as they are
there, later by the length of the text and its line break. -/
theorem lex_line {first : String} {last : Nat} (ended : (lex first).ending = .ok last)
    (second : String) :
    lex (first ++ "\n" ++ second) =
      ⟨(lex first).tokens ++ ((lex second).later (first.length + 1)).tokens,
        ((lex second).later (first.length + 1)).ending⟩ := by
  have length : last = first.length := by
    rw [lexFrom_stop ended, Cursor.stop, Nat.zero_add, String.length_toList]
  have text : (first ++ "\n" ++ second).toList = first.toList ++ '\n' :: second.toList := by
    simp
  rw [lex, text]
  show lexFrom (Cursor.continued second.toList ⟨0, first.toList⟩) = _
  rw [lexFrom_continued ended, length, lex, lex, ← lexFrom_later]
  simp only [Cursor.later, Nat.zero_add]

/-- **Texts are cut into tokens line by line.**  If a text can be cut into tokens, then the same
text with another one behind a line break has the tokens of the one followed by those of the other;
and if the other cannot be cut, the whole fails with its error, at the place where the error stands
now. -/
theorem tokenize_line {first : String} {tokens : List Token} (cut : tokenize first = .ok tokens)
    (second : String) :
    tokenize (first ++ "\n" ++ second) =
      match tokenize second with
      | .ok more => .ok (tokens ++ more)
      | .error error => .error (error.later (first.length + 1)) := by
  unfold tokenize at cut
  split at cut
  · rename_i last ended
    obtain rfl := Except.ok.inj cut
    unfold tokenize
    rw [lex_line ended]
    rcases (lex second) with ⟨more, failure | last⟩
    · rfl
    · simp [Lexing.later, Except.map, Except.mapError]
  · cases cut

theorem tokenize_line_exponent :
    tokenize "1e+" = .ok [.number "1", .identifier "e", .symbol .plus] ∧
      tokenize ("1e+" ++ "\n" ++ "5") =
        .ok [.number "1", .identifier "e", .symbol .plus, .number "5"] ∧
      tokenize ("1e+" ++ "\n" ++ "5 \x27") = .error (.unterminated .string 6) := by
  have cut : tokenize "1e+" = .ok [.number "1", .identifier "e", .symbol .plus] := by
    rw [tokenize, lex, lexFrom_token rfl rfl, lexFrom_token rfl rfl, lexFrom_token rfl rfl,
      lexFrom_end rfl]
    rfl
  have five : tokenize "5" = .ok [.number "5"] := by
    rw [tokenize, lex, lexFrom_token rfl rfl, lexFrom_end rfl]
    rfl
  have unended : tokenize "5 \x27" = .error (.unterminated .string 2) := by
    rw [tokenize, lex, lexFrom_token rfl rfl, lexFrom_error rfl rfl]
    rfl
  refine ⟨cut, (tokenize_line cut "5").trans ?_, (tokenize_line cut "5 \x27").trans ?_⟩
  · rw [five]
    rfl
  · rw [unended]
    rfl

end Lexer

end Sift
