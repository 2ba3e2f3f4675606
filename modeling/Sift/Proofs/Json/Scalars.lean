import Mathlib.Data.List.TakeDrop
import Sift.Json.Number
import Sift.Json.Reader
import Sift.Json.Writer
import Sift.Proofs.Language.Spelling

/-!
# Strings and numbers are read back

Not everything that can be spelt makes sense when it is written: a control character cannot stand
for itself, a code unit has four digits at most, and a number has digits without a superfluous zero
in front.  `Piece.IsWritable` and `Numeral.IsWritable` say what does.  The spellings of texts and
of integers are among it (`isWritable_of_mem_spelling`, `Numeral.isWritable_ofInt`).

What is writable is read back as it was spelt, and the reader stops behind it (`readString_written`,
`readNumber_written`).  A string has a closing mark for that.  A number has none and ends before the
first character that cannot go on with it (`EndsNumber`).
-/

set_option autoImplicit false

namespace Sift.Json

/-! ## Code units -/

/-- A number as hexadecimal digits, filled up with zeros to a width. -/
def padded (width n : Nat) : List Char :=
  List.replicate (width - (Text.hexDigits n).length) '0' ++ Text.hexDigits n

theorem padded_one {n : Nat} (small : n < 16) : padded 1 n = [n.digitChar] := by
  rw [padded, Text.hexDigits, Nat.toDigits_of_lt_base small]
  rfl

/-- The last digit of a number stands behind those of the rest of it. -/
theorem padded_succ {width n : Nat} (positive : 0 < width) :
    padded (width + 1) n = padded width (n / 16) ++ [(n % 16).digitChar] := by
  simp only [padded, Text.hexDigits]
  by_cases small : n < 16
  · obtain ⟨width, rfl⟩ := Nat.exists_eq_succ_of_ne_zero positive.ne'
    rw [Nat.toDigits_of_lt_base small, Nat.div_eq_of_lt small, Nat.mod_eq_of_lt small,
      Nat.toDigits_zero]
    exact congrArg (· ++ [n.digitChar]) List.replicate_succ'
  · rw [Nat.toDigits_of_base_le (by decide) (Nat.le_of_not_lt small), List.length_append,
      List.length_singleton, Nat.add_sub_add_right, List.append_assoc]

theorem fourDigits_eq {code : Nat} (small : code < 0x10000) :
    fourDigits code =
      [code / 16 / 16 / 16, code / 16 / 16 % 16, code / 16 % 16, code % 16].map Nat.digitChar := by
  change padded 4 code = _
  rw [padded_succ (by decide), padded_succ (by decide), padded_succ (by decide),
    padded_one (by omega)]
  rfl

theorem hexValue?_digitChar : ∀ {digit : Nat}, digit < 16 →
    hexValue? digit.digitChar = some digit := by
  decide

/-- A code unit is read back from its four digits. -/
theorem exists_unitOf?_fourDigits {code : Nat} (small : code < 0x10000) :
    ∃ a b c d, fourDigits code = [a, b, c, d] ∧ unitOf? a b c d = some code := by
  refine ⟨_, _, _, _, fourDigits_eq small, ?_⟩
  rw [unitOf?, hexValue?_digitChar (by omega), hexValue?_digitChar (Nat.mod_lt _ (by decide)),
    hexValue?_digitChar (Nat.mod_lt _ (by decide)), hexValue?_digitChar (Nat.mod_lt _ (by decide))]
  simp only [Option.some.injEq]
  omega

/-! ## Strings -/

/-- A piece that makes sense when it is written. -/
def Piece.IsWritable : Piece → Prop
  | .char c => 0x20 ≤ c.toNat ∨ controlLetter? c ≠ none
  | .unit code => code < 0x10000

/-- The letter of a control character stands for it behind a backslash. -/
theorem escaped?_controlLetter {c letter : Char} (found : controlLetter? c = some letter) :
    escaped? letter = some c := by
  unfold controlLetter? at found
  split_ifs at found with newline tab carriage backspace feed <;> cases found
  · rw [newline, escaped?]
  · rw [tab, escaped?]
  · rw [carriage, escaped?]
  · rw [← Char.ofNat_toNat c, backspace]; rfl
  · rw [← Char.ofNat_toNat c, feed]; rfl

/-- Behind a backslash, a letter or mark stands for a character unless a number follows. -/
theorem readString_escaped {letter c : Char} (stands : escaped? letter = some c)
    (text : List Char) :
    readString ('\\' :: letter :: text) = followedBy (.char c) (readString text) := by
  have noNumber : letter ≠ 'u' := by
    rintro rfl
    cases stands
  rw [readString.eq_4 _ _ fun _ _ _ _ _ unicode _ => noNumber unicode, stands]

/-- A character that needs no backslash stands for itself. -/
theorem readString_plain {c : Char} (noMark : c ≠ '"') (noBackslash : c ≠ '\\')
    (visible : 0x20 ≤ c.toNat) (text : List Char) :
    readString (c :: text) = followedBy (.char c) (readString text) := by
  rw [readString]
  · rw [if_neg (by simp [noBackslash, Nat.not_lt.2 visible])]
  all_goals simp_all

/-- A piece that was written is the first piece that is read. -/
theorem readString_piece {piece : Piece} (writable : piece.IsWritable) (text : List Char) :
    readString (piece.written ++ text) = followedBy piece (readString text) := by
  cases piece with
  | unit code =>
    obtain ⟨a, b, c, d, digits, value⟩ := exists_unitOf?_fourDigits writable
    simp only [Piece.written, digits, List.cons_append, List.nil_append, readString, value]
  | char c =>
    rw [Piece.written]
    by_cases marked : c = '"' ∨ c = '\\'
    · rw [if_pos (by simpa using marked)]
      refine readString_escaped ?_ text
      rcases marked with rfl | rfl <;> rfl
    · obtain ⟨noMark, noBackslash⟩ := not_or.1 marked
      rw [if_neg (by simpa using marked)]
      cases letter : controlLetter? c with
      | some letter' => exact readString_escaped (escaped?_controlLetter letter) text
      | none =>
        exact readString_plain noMark noBackslash (writable.resolve_right (· letter)) text

/-- **A string that was written is read back.** -/
theorem readString_written {content : List Piece} (writable : ∀ piece ∈ content, piece.IsWritable)
    (rest : List Char) :
    readString (content.flatMap Piece.written ++ '"' :: rest) = some (content, rest) := by
  induction content with
  | nil => rw [List.flatMap_nil, List.nil_append, readString]
  | cons piece content ih =>
    obtain ⟨first, others⟩ := List.forall_mem_cons.1 writable
    rw [List.flatMap_cons, List.append_assoc, readString_piece first, ih others]
    rfl

/-- The spelling of a text can be written. -/
theorem isWritable_of_mem_spelling {text : String} :
    ∀ piece ∈ spelling text, piece.IsWritable := by
  intro piece member
  obtain ⟨c, -, rfl⟩ := List.mem_map.1 member
  rw [spelled]
  split_ifs with control
  · exact Nat.lt_trans control.1 (by decide)
  · exact or_iff_not_imp_left.2 fun small => fun none => control ⟨Nat.lt_of_not_le small, none⟩

/-! ## Numbers -/

/-- A number that makes sense when it is written. -/
structure Numeral.IsWritable (numeral : Numeral) : Prop where
  nonempty : numeral.whole ≠ []
  whole : AreDigits numeral.whole
  noLeadingZero : hasLeadingZero numeral.whole = false
  fraction : AreDigits numeral.fraction
  exponent : ∀ mark ∈ numeral.exponent, mark.2 ≠ [] ∧ AreDigits mark.2

/-- A text at whose beginning a number is over. -/
def EndsNumber (rest : List Char) : Prop :=
  ∀ c ∈ rest.head?, c.isDigit = false ∧ c ≠ '.' ∧ c ≠ 'e' ∧ c ≠ 'E'

theorem readDigits_append {digits rest : List Char} (nonempty : digits ≠ [])
    (areDigits : AreDigits digits) (ends : ∀ c ∈ rest.head?, c.isDigit = false) :
    readDigits (digits ++ rest) = some (digits, rest) := by
  rw [readDigits, List.span_eq_takeWhile_dropWhile, takeWhile_digits areDigits ends,
    dropWhile_digits areDigits ends]
  exact if_neg (by simpa using nonempty)

/-- An exponent as it is written, if there is one. -/
def writtenExponent : Option (Bool × List Char) → List Char
  | none => []
  | some (isNegative, digits) => 'e' :: (if isNegative then ['-'] else []) ++ digits

/-- A fraction as it is written, if there is one. -/
def writtenFraction (fraction : List Char) : List Char :=
  if fraction.isEmpty then [] else '.' :: fraction

theorem Numeral.written_eq (numeral : Numeral) :
    numeral.written =
      (if numeral.isNegative then ['-'] else []) ++ (numeral.whole ++
        (writtenFraction numeral.fraction ++ writtenExponent numeral.exponent)) := by
  obtain ⟨isNegative, whole, fraction, exponent⟩ := numeral
  simp only [Numeral.written, List.append_assoc, writtenFraction]
  rcases exponent with _ | ⟨_, _⟩ <;> rfl

/-- An exponent is read back where the number ends. -/
theorem readExponent_written {exponent : Option (Bool × List Char)}
    (writable : ∀ mark ∈ exponent, mark.2 ≠ [] ∧ AreDigits mark.2) {rest : List Char}
    (ends : EndsNumber rest) :
    readExponent (writtenExponent exponent ++ rest) = some (exponent, rest) := by
  rcases exponent with _ | ⟨isNegative, digits⟩
  · cases rest with
    | nil => rfl
    | cons c rest =>
      obtain ⟨-, -, noMark, noCapital⟩ := ends c rfl
      simp [writtenExponent, readExponent, noMark, noCapital]
  · obtain ⟨nonempty, areDigits⟩ := writable _ rfl
    have sign : exponentSign ((if isNegative then ['-'] else []) ++ (digits ++ rest)) =
        (isNegative, digits ++ rest) := by
      cases isNegative with
      | true => rfl
      | false =>
        obtain ⟨digit, digits, rfl⟩ := List.exists_cons_of_ne_nil nonempty
        have isDigit : digit.isDigit = true := areDigits digit List.mem_cons_self
        refine exponentSign.eq_3 _ ?_ ?_
        all_goals
          rintro _ ⟨⟩
          exact absurd isDigit (by decide)
    have read := readDigits_append nonempty areDigits fun c head => (ends c head).1
    simp only [writtenExponent, List.cons_append, List.append_assoc, readExponent, beq_self_eq_true,
      Bool.true_or, if_true, sign, read, Option.map_some]

/-- Neither a digit nor a point follows on a fraction. -/
theorem head_writtenExponent (exponent : Option (Bool × List Char)) {rest : List Char}
    (ends : EndsNumber rest) :
    ∀ c ∈ (writtenExponent exponent ++ rest).head?, c.isDigit = false ∧ c ≠ '.' := by
  rcases exponent with _ | ⟨isNegative, digits⟩
  · exact fun c head => ⟨(ends c head).1, (ends c head).2.1⟩
  · rintro _ ⟨⟩
    exact ⟨rfl, by decide⟩

/-- A fraction is read back where neither a digit nor a point follows. -/
theorem readFraction_written {fraction : List Char} (areDigits : AreDigits fraction)
    {rest : List Char} (ends : ∀ c ∈ rest.head?, c.isDigit = false ∧ c ≠ '.') :
    readFraction (writtenFraction fraction ++ rest) = some (fraction, rest) := by
  cases fraction with
  | nil =>
    refine readFraction.eq_2 _ ?_
    rintro _ rfl
    exact (ends '.' rfl).2 rfl
  | cons digit digits =>
    exact readDigits_append (List.cons_ne_nil _ _) areDigits fun c head => (ends c head).1

/-- No digit follows on the whole part of a number. -/
theorem head_writtenFraction {fraction rest : List Char}
    (ends : ∀ c ∈ rest.head?, c.isDigit = false ∧ c ≠ '.') :
    ∀ c ∈ (writtenFraction fraction ++ rest).head?, c.isDigit = false := by
  cases fraction with
  | nil => exact fun c head => (ends c head).1
  | cons digit digits => exact point_not_digit _

/-- A number that was written is read back behind its sign. -/
theorem readUnsigned_written {numeral : Numeral} (writable : numeral.IsWritable)
    {rest : List Char} (ends : EndsNumber rest) :
    readUnsigned numeral.isNegative (numeral.whole ++ (writtenFraction numeral.fraction ++
      (writtenExponent numeral.exponent ++ rest))) = some (numeral, rest) := by
  have behind := head_writtenExponent numeral.exponent ends
  rw [readUnsigned, readDigits_append writable.nonempty writable.whole
    (head_writtenFraction behind)]
  simp only [writable.noLeadingZero, Bool.false_eq_true, if_false,
    readFraction_written writable.fraction behind, readExponent_written writable.exponent ends,
    Option.map_some]

/-- **A number that was written is read back where it ends.** -/
theorem readNumber_written {numeral : Numeral} (writable : numeral.IsWritable) {rest : List Char}
    (ends : EndsNumber rest) : readNumber (numeral.written ++ rest) = some (numeral, rest) := by
  have unsigned := readUnsigned_written writable ends
  rw [Numeral.written_eq]
  simp only [List.append_assoc]
  cases sign : numeral.isNegative with
  | true => rwa [sign] at unsigned
  | false =>
    rw [sign] at unsigned
    obtain ⟨digit, digits, whole⟩ := List.exists_cons_of_ne_nil writable.nonempty
    have isDigit : digit.isDigit = true :=
      writable.whole digit (whole ▸ List.mem_cons_self)
    rw [whole] at unsigned ⊢
    refine (readNumber.eq_2 _ ?_).trans unsigned
    rintro _ ⟨⟩
    exact absurd isDigit (by decide)

/-! ## Integers -/

/-- The first digit of a number is a zero only if the number is. -/
theorem head?_toDigits {n : Nat} (positive : 0 < n) : (Nat.toDigits 10 n).head? ≠ some '0' := by
  induction n using Nat.strongRecOn with
  | ind n ih =>
    rw [Nat.toDigits_eq_if (by decide)]
    split_ifs with small
    · rw [List.head?_cons, Ne, Option.some.injEq, Nat.digitChar_eq_zero]
      exact positive.ne'
    · have shorter := ih (n / 10) (by omega) (by omega)
      obtain ⟨digit, digits, same⟩ :=
        List.exists_cons_of_ne_nil (Nat.toDigits_ne_nil : Nat.toDigits 10 (n / 10) ≠ [])
      rw [same] at shorter ⊢
      exact shorter

theorem hasLeadingZero_toDigits (n : Nat) : hasLeadingZero (Nat.toDigits 10 n) = false := by
  rcases Nat.eq_zero_or_pos n with rfl | positive
  · rfl
  · refine hasLeadingZero.eq_2 _ fun next others digits => head?_toDigits positive ?_
    rw [digits, List.head?_cons]

/-- The spelling of an integer can be written. -/
theorem Numeral.isWritable_ofInt (n : Int) : (ofInt n).IsWritable where
  nonempty := Nat.toDigits_ne_nil
  whole := fun _ member => Nat.isDigit_of_mem_toDigits (by decide) (by decide) member
  noLeadingZero := hasLeadingZero_toDigits _
  fraction := fun _ member => nomatch member
  exponent := fun _ found => nomatch found

theorem valueOf_toDigits (n : Nat) : Number.valueOf (Nat.toDigits 10 n) = n := by
  refine Eq.trans ?_ (@Nat.ofDigitChars_ten_toDigits n)
  simp only [Number.valueOf, Nat.ofDigitChars_eq_foldl, Nat.mul_comm]

/-- The spelling of an integer stands for it. -/
theorem Numeral.integer?_ofInt (n : Int) : (ofInt n).integer? = some n := by
  have isInteger : ((ofInt n).fraction.isEmpty && (ofInt n).exponent.isNone) = true := rfl
  rw [integer?, if_pos isInteger]
  simp only [ofInt, valueOf_toDigits, decide_eq_true_eq]
  split_ifs with negative zero
  · omega
  · rw [Option.some.injEq]
    omega
  · rw [Option.some.injEq]
    omega

end Sift.Json
