import Sift.Proofs.Pattern.Standard

/-!
# The engine of rows is standard

The engine that reads an expression as constructs and decides them by rows of flags does what is
asked of any engine (`Engine.standard_direct`).  It reads every expression that is written of
constructs as those constructs, since what can follow a construct never continues it; and a row has
the flag at a suffix set exactly if the constructs match there, which each kind of row passes on
from what stands behind it.
-/

set_option autoImplicit false

namespace Sift.Pattern.Construct

/-! ## Code points -/

/-- Every digit of a number is read as the number that it was written for. -/
theorem hexDigit?_digitChar {digit : Nat} (small : digit < 16) :
    hexDigit? digit.digitChar = some digit := by
  have all : ∀ digit < 16, hexDigit? digit.digitChar = some digit := by decide
  exact all digit small

theorem hexValue?_append (value : Nat) (digits later : List Char) :
    hexValue? value (digits ++ later) =
      (hexValue? value digits).bind fun value => hexValue? value later := by
  induction digits generalizing value with
  | nil => rfl
  | cons digit rest ih =>
    simp only [List.cons_append, hexValue?]
    cases hexDigit? digit with
    | none => rfl
    | some digit => exact ih _

/-- The digits of a number are read as that number. -/
theorem hexValue?_hexDigits (n : Nat) : hexValue? 0 (Text.hexDigits n) = some n := by
  induction n using Nat.strongRecOn with
  | ind n ih =>
    unfold Text.hexDigits
    rw [Nat.toDigits_eq_if (by decide)]
    split_ifs with small
    · simp [hexValue?, hexDigit?_digitChar small]
    · have before : hexValue? 0 (Nat.toDigits 16 (n / 16)) = some (n / 16) :=
        ih (n / 16) (by omega)
      have digit := hexDigit?_digitChar (Nat.mod_lt n (by decide : 0 < 16))
      rw [hexValue?_append, before]
      simp only [Option.bind_some, hexValue?, digit, Option.some.injEq]
      omega

/-- A character is read back from its code point. -/
theorem byCode?_hexDigits (c : Char) : byCode? (Text.hexDigits c.toNat) = some c := by
  have digits : (Text.hexDigits c.toNat).isEmpty = false := by
    simp [Text.hexDigits, List.isEmpty_eq_false_iff]
  have valid : c.toNat.isValidChar := c.valid
  simp [byCode?, digits, hexValue?_hexDigits, valid]

/-- The digits of a code point end before the brace. -/
theorem notMem_of_hexValue? {value code : Nat} {digits : List Char}
    (read : hexValue? value digits = some code) : '\x7d' ∉ digits := by
  induction digits generalizing value with
  | nil => exact List.not_mem_nil
  | cons digit rest ih =>
    obtain ⟨number, isDigit, later⟩ := Option.bind_eq_some_iff.1 read
    rw [List.mem_cons, not_or]
    refine ⟨?_, ih later⟩
    rintro rfl
    have noDigit : hexDigit? '\x7d' = none := by decide
    cases noDigit.symm.trans isDigit

/-! ## Reading expressions -/

theorem next?_code {c : Char} {digits : List Char} (code : byCode? digits = some c)
    (rest : List Char) :
    next? ('\\' :: 'x' :: '\x7b' :: (digits ++ '\x7d' :: rest)) = some (.char c, rest) := by
  have inside : ∀ digit ∈ digits, (digit != '\x7d') = true := by
    intro digit member
    unfold byCode? at code
    split_ifs at code
    obtain ⟨_, read, _⟩ := Option.bind_eq_some_iff.1 code
    refine bne_iff_ne.2 fun same => ?_
    exact notMem_of_hexValue? read (same ▸ member)
  simp [next?, List.dropWhile_append_of_pos inside, List.takeWhile_append_of_pos inside, code]

theorem next?_plain {c : Char} (plain : c ∉ metaChars) (rest : List Char) :
    next? (c :: rest) = some (.char c, rest) := by
  unfold next?
  split <;> rename_i found <;> cases found
  case h_6 => simp [plain]
  all_goals exact absurd (by decide) plain

/-- What can follow a dot does not repeat it. -/
theorem next?_dot {constructs : List Construct} {rest : List Char}
    (spells : Spells constructs rest) : next? ('.' :: rest) = some (.dot, rest) := by
  cases spells with
  | plain plain _ =>
    unfold next?
    split <;> rename_i found <;> cases found
    · exact absurd (by decide) plain
    · rfl
    · rename_i noDot _ _ _ _
      exact absurd rfl noDot
  | _ => rfl

/-- An expression of constructs is read as those constructs. -/
theorem read?_of_spells {constructs : List Construct} {expression : List Char}
    (spells : Spells constructs expression) : read? expression = some constructs := by
  have step {construct : Construct} {constructs : List Construct} {expression rest : List Char}
      (first : next? expression = some (construct, rest))
      (shorter : rest.length < expression.length) (later : read? rest = some constructs) :
      read? expression = some (construct :: constructs) := by
    rw [read?, first]
    simp [shorter, later]
  induction spells with
  | nil => rw [read?]; rfl
  | start _ ih => exact step rfl (by simp only [List.length_cons]; omega) ih
  | finish _ ih => exact step rfl (by simp only [List.length_cons]; omega) ih
  | dot rest ih => exact step (next?_dot rest) (by simp) ih
  | run _ ih => exact step rfl (by simp only [List.length_cons]; omega) ih
  | plain plain _ ih => exact step (next?_plain plain _) (by simp) ih
  | code code _ ih => exact step (next?_code code _) (by simp; omega) ih

/-! ## Rows of flags -/

/-- A row has a flag for every suffix of a text, which is set exactly if something holds between
what stands before the suffix and the suffix. -/
inductive Marks (holds : List Char → List Char → Prop) :
    List Char → List Char → List Bool → Prop where
  | last {before flag} (marked : flag = true ↔ holds before []) : Marks holds before [] [flag]
  | more {before c rest flag flags} (marked : flag = true ↔ holds before (c :: rest))
    (later : Marks holds (before ++ [c]) rest flags) :
    Marks holds before (c :: rest) (flag :: flags)

/-- What is split in two is split in front, or behind the first element. -/
theorem exists_split_cons {holds : List Char → List Char → Prop} {c : Char} {text : List Char} :
    (∃ piece rest, c :: text = piece ++ rest ∧ holds piece rest) ↔
      holds [] (c :: text) ∨ ∃ piece rest, text = piece ++ rest ∧ holds (c :: piece) rest := by
  simp only [List.cons_eq_append_iff, or_and_right, exists_or]
  refine or_congr ⟨?_, fun here => ⟨_, _, ⟨rfl, rfl⟩, here⟩⟩ ⟨?_, ?_⟩
  · rintro ⟨_, _, ⟨rfl, rfl⟩, here⟩
    exact here
  · rintro ⟨_, rest, ⟨piece, rfl, same⟩, found⟩
    exact ⟨piece, rest, same, found⟩
  · rintro ⟨piece, rest, same, found⟩
    exact ⟨_, rest, ⟨piece, rfl, same⟩, found⟩

namespace Marks

variable {holds holds' : List Char → List Char → Prop} {before text : List Char}
  {flags : List Bool}

theorem congr (same : ∀ before rest, holds before rest ↔ holds' before rest)
    (marks : Marks holds before text flags) : Marks holds' before text flags := by
  induction marks with
  | last marked => exact .last (marked.trans (same _ _))
  | more marked _ ih => exact .more (marked.trans (same _ _)) ih

/-- The first flag is that of the whole text. -/
theorem head (marks : Marks holds before text flags) :
    flags.headD false = true ↔ holds before text := by
  cases marks with
  | last marked => exact marked
  | more marked _ => exact marked

/-- The row of what holds everywhere. -/
theorem everywhere (always : ∀ before rest, holds before rest) (before text : List Char) :
    Marks holds before text (true :: text.map fun _ => true) := by
  induction text generalizing before with
  | nil => exact .last (by simp [always])
  | cons c rest ih => exact .more (by simp [always]) (ih _)

/-- The row of what holds nowhere from some place on. -/
theorem nowhere (never : ∀ later rest, ¬ holds' (before ++ later) rest)
    (marks : Marks holds before text flags) :
    Marks holds' before text (flags.map fun _ => false) := by
  induction marks with
  | last _ => exact .last (by simpa using never [] [])
  | @more before c rest _ _ _ _ ih =>
    refine .more (by simpa using never [] (c :: rest)) (ih fun later behind => ?_)
    simpa using never (c :: later) behind

theorem charRow (accept : Char → Bool) (marks : Marks holds before text flags) :
    Marks (fun before text => ∃ c rest, text = c :: rest ∧ accept c = true ∧
      holds (before ++ [c]) rest) before text (Construct.charRow accept text flags) := by
  induction marks with
  | last marked => exact .last (by simp)
  | more marked later ih =>
    refine .more ?_ ih
    rw [Bool.and_eq_true, later.head]
    constructor
    · rintro ⟨accepted, found⟩
      exact ⟨_, _, rfl, accepted, found⟩
    · rintro ⟨_, _, ⟨⟩, accepted, found⟩
      exact ⟨accepted, found⟩

theorem runRow (accept : Char → Bool) (marks : Marks holds before text flags) :
    Marks (fun before text => ∃ piece rest, text = piece ++ rest ∧ (∀ c ∈ piece, accept c = true) ∧
      holds (before ++ piece) rest) before text (Construct.runRow accept text flags) := by
  induction marks with
  | last marked => exact .last (by simp [marked])
  | more marked later ih =>
    refine .more ?_ ih
    rw [Bool.or_eq_true, Bool.and_eq_true, marked, ih.head, exists_split_cons]
    simp [and_assoc, and_left_comm]

theorem finishRow (marks : Marks holds before text flags) :
    Marks (fun before text => text = [] ∧ holds before text) before text
      (Construct.finishRow flags) := by
  induction marks with
  | last marked => exact .last (by simp [marked])
  | more marked later ih =>
    cases later with
    | last marked' => exact .more (by simp) ih
    | more marked' later' => exact .more (by simp) ih

theorem startRow (marks : Marks holds [] text flags) :
    Marks (fun before text => before = [] ∧ holds before text) [] text
      (Construct.startRow flags) := by
  cases marks with
  | last marked => exact .last (by simp [marked])
  | more marked later => exact .more (by simp [marked]) (later.nowhere (by simp))

/-- A search looks at all flags. -/
theorem any (marks : Marks holds before text flags) :
    flags.any id = true ↔ ∃ piece rest, text = piece ++ rest ∧ holds (before ++ piece) rest := by
  induction marks with
  | last marked => simp [marked]
  | more marked later ih =>
    rw [List.any_cons, Bool.or_eq_true, id, marked, ih, exists_split_cons]
    simp

end Marks

/-- **One more construct in front turns a row of matches into a row of matches.** -/
theorem marks_row {construct : Construct} {constructs : List Construct} {text : List Char}
    {flags : List Bool} (marks : Marks (MatchesAt · constructs ·) [] text flags) :
    Marks (MatchesAt · (construct :: constructs) ·) [] text (construct.row true text flags) := by
  cases construct with
  | start =>
    refine marks.startRow.congr fun before rest => ?_
    rw [matchesAt_cons_iff]
    constructor
    · rintro ⟨rfl, found⟩
      exact ⟨[], rest, rfl, ⟨rfl, rfl⟩, found⟩
    · rintro ⟨piece, after, rfl, ⟨rfl, rfl⟩, found⟩
      exact ⟨rfl, found⟩
  | finish =>
    refine marks.finishRow.congr fun before rest => ?_
    rw [matchesAt_cons_iff]
    constructor
    · rintro ⟨rfl, found⟩
      exact ⟨[], [], rfl, ⟨rfl, rfl⟩, by simpa using found⟩
    · rintro ⟨piece, after, rfl, ⟨rfl, rfl⟩, found⟩
      exact ⟨rfl, by simpa using found⟩
  | dot =>
    refine (marks.charRow _).congr fun before rest => ?_
    rw [matchesAt_cons_iff]
    constructor
    · rintro ⟨c, after, rfl, _, found⟩
      exact ⟨[c], after, rfl, ⟨c, rfl⟩, found⟩
    · rintro ⟨piece, after, rfl, ⟨c, rfl⟩, found⟩
      exact ⟨c, after, rfl, rfl, found⟩
  | run =>
    refine (marks.runRow _).congr fun before rest => ?_
    rw [matchesAt_cons_iff]
    constructor
    · rintro ⟨piece, after, rfl, _, found⟩
      exact ⟨piece, after, rfl, trivial, found⟩
    · rintro ⟨piece, after, rfl, _, found⟩
      exact ⟨piece, after, rfl, fun _ _ => rfl, found⟩
  | char c =>
    refine (marks.charRow _).congr fun before rest => ?_
    rw [matchesAt_cons_iff]
    constructor
    · rintro ⟨c', after, rfl, same, found⟩
      exact ⟨[c'], after, rfl, congrArg ([·]) (eq_of_beq same), found⟩
    · rintro ⟨piece, after, rfl, rfl, found⟩
      exact ⟨c, after, rfl, beq_self_eq_true c, found⟩

/-- The flags of constructs are set exactly where they match. -/
theorem marks_rows (constructs : List Construct) (text : List Char) :
    Marks (MatchesAt · constructs ·) [] text (rows true constructs text) := by
  induction constructs with
  | nil => exact .everywhere (fun _ _ => .nil) [] text
  | cons construct rest ih => exact marks_row ih

/-- A search by rows succeeds exactly if the constructs are found. -/
theorem finds_iff (constructs : List Construct) (text : List Char) :
    finds true constructs text = true ↔ Finds constructs text := by
  rw [finds, (marks_rows constructs text).any]
  rfl

end Sift.Pattern.Construct

/-- **The engine of rows is standard, and no expression is too large for it.** -/
theorem Sift.Engine.standard_direct : @Sift.Engine.Standard Sift.Engine.direct fun _ => True := by
  intro constructs expression spells _
  refine ⟨fun text => Sift.Pattern.Construct.finds true constructs text.toList, ?_, fun text => ?_⟩
  · show Sift.Pattern.Construct.compile true expression = _
    rw [Sift.Pattern.Construct.compile, Sift.Pattern.Construct.read?_of_spells spells]
  · exact Sift.Pattern.Construct.finds_iff constructs text.toList
