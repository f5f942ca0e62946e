import SqlLexer.Proofs.Cursor.Remaining
import SqlLexer.Proofs.Lexeme.Numeral

/-!
# Numbers read by a cursor

Numeric literals are spelled out here form by form and digit by digit.  Where a digit lies ahead, a
cursor reads the longest literal at the head of what remains.
-/

namespace SqlLexer

/-- A list of all characters from one to another has exactly those between the two. -/
theorem mem_iff_between
    {first last : Char}
    {listed : Text}
    (inside : listed.all fun c => first ≤ c && c ≤ last)
    (whole : listed = (List.range' first.toNat (last.toNat + 1 - first.toNat)).map Char.ofNat)
    (c : Char) :
    c ∈ listed ↔ first ≤ c ∧ c ≤ last := by
  constructor
  · intro member
    simpa using List.all_eq_true.mp inside c member
  · rintro ⟨lower, upper⟩
    have lowerCode : first.toNat ≤ c.toNat := lower
    have upperCode : c.toNat ≤ last.toNat := upper
    rw [whole, List.mem_map]
    refine ⟨c.toNat, ?_, Char.ofNat_toNat c⟩
    rw [List.mem_range'_1]
    omega

namespace Lexeme

/-! ## Literals form by form -/

/-- The digits of decimal numbers. -/
def decimalDigits : Text :=
  "0123456789".toList

/-- The letters that mark a radix. -/
def Radix.marks : Radix → Text
  | .binary => ['b', 'B']
  | .octal => ['o', 'O']
  | .hexadecimal => ['x', 'X']

/-- The digits of a radix. -/
def Radix.digits : Radix → Text
  | .binary => "01".toList
  | .octal => "01234567".toList
  | .hexadecimal => decimalDigits ++ "abcdef".toList ++ "ABCDEF".toList

/-- One or more characters, each of them one of a list. -/
structure IsWordOver (listed text : Text) : Prop where
  nonempty : text ≠ []
  all : ∀ c ∈ text, c ∈ listed

/-- Numeric literals, form by form. -/
inductive IsNumericLiteral : Text → Prop
  | radix {mark : Char} {digits : Text}
      (radix : Radix)
      (isMark : mark ∈ radix.marks)
      (isWord : IsWordOver radix.digits digits) :
      IsNumericLiteral ('0' :: mark :: digits)
  | whole {whole : Text}
      (isWhole : IsWordOver decimalDigits whole) :
      IsNumericLiteral whole
  | fraction {whole part : Text}
      (isWhole : IsWordOver decimalDigits whole)
      (isPart : IsWordOver decimalDigits part) :
      IsNumericLiteral (whole ++ '.' :: part)
  | power {whole sign power : Text} {mark : Char}
      (isWhole : IsWordOver decimalDigits whole)
      (isMark : mark ∈ ['e', 'E'])
      (isSign : sign ∈ [[], ['+'], ['-']])
      (isPower : IsWordOver decimalDigits power) :
      IsNumericLiteral (whole ++ mark :: (sign ++ power))
  | fractionPower {whole part sign power : Text} {mark : Char}
      (isWhole : IsWordOver decimalDigits whole)
      (isPart : IsWordOver decimalDigits part)
      (isMark : mark ∈ ['e', 'E'])
      (isSign : sign ∈ [[], ['+'], ['-']])
      (isPower : IsWordOver decimalDigits power) :
      IsNumericLiteral (whole ++ '.' :: (part ++ mark :: (sign ++ power)))

/-! ## The digits that are listed -/

theorem mem_decimalDigits_iff (c : Char) : c ∈ decimalDigits ↔ isDigit c := by
  rw [isDigit, Bool.and_eq_true, decide_eq_true_eq, decide_eq_true_eq]
  exact mem_iff_between (by decide) (by decide) c

theorem Radix.mem_marks_iff (radix : Radix) (mark : Char) :
    mark ∈ radix.marks ↔ Radix.ofMark? mark = some radix := by
  cases radix <;> grind [Radix.marks, Radix.ofMark?]

theorem Radix.mem_digits_iff (radix : Radix) (c : Char) :
    c ∈ radix.digits ↔ radix.isDigit c := by
  cases radix with
  | binary =>
      rw [Radix.isDigit, Bool.and_eq_true, decide_eq_true_eq, decide_eq_true_eq]
      exact mem_iff_between (by decide) (by decide) c
  | octal =>
      rw [Radix.isDigit, Bool.and_eq_true, decide_eq_true_eq, decide_eq_true_eq]
      exact mem_iff_between (by decide) (by decide) c
  | hexadecimal =>
      have small : c ∈ "abcdef".toList ↔ 'a' ≤ c ∧ c ≤ 'f' :=
        mem_iff_between (by decide) (by decide) c
      have large : c ∈ "ABCDEF".toList ↔ 'A' ≤ c ∧ c ≤ 'F' :=
        mem_iff_between (by decide) (by decide) c
      unfold digits
      rw [List.mem_append, List.mem_append, mem_decimalDigits_iff, small, large]
      simp only [Radix.isDigit, Bool.or_eq_true, Bool.and_eq_true, decide_eq_true_eq]

/-! ## Literals are numerals -/

theorem run_iff_isWordOver
    {condition : Char → Bool}
    {listed : Text}
    (listsAll : ∀ c, c ∈ listed ↔ condition c)
    (text : Text) :
    Run condition text ↔ IsWordOver listed text :=
  ⟨fun run => ⟨run.nonempty, fun c member => (listsAll c).mpr (run.all c member)⟩,
    fun isWord => ⟨isWord.nonempty, fun c member => (listsAll c).mp (isWord.all c member)⟩⟩

theorem sign_iff (text : Text) : Sign text ↔ text ∈ [[], ['+'], ['-']] := by
  constructor
  · intro isSign
    cases isSign <;> decide
  · intro member
    simp only [List.mem_cons, List.not_mem_nil, or_false] at member
    rcases member with rfl | rfl | rfl
    · exact .absent
    · exact .plus
    · exact .minus

/-- The forms of numeric literals are those that a numeral takes with and without its optional
parts. -/
theorem numeral_iff (text : Text) : Numeral text ↔ IsNumericLiteral text := by
  have digits := run_iff_isWordOver mem_decimalDigits_iff
  constructor
  · intro numeral
    cases numeral with
    | @radix mark radix _ stands run =>
        have isWord := (run_iff_isWordOver radix.mem_digits_iff _).mp run
        exact .radix radix ((radix.mem_marks_iff mark).mpr stands) isWord
    | decimal decimal =>
        cases decimal with
        | parts run isFraction isExponent =>
            have isWhole := (digits _).mp run
            cases isFraction with
            | absent =>
                cases isExponent with
                | absent => simpa using .whole isWhole
                | power isMark isSign run =>
                    exact .power isWhole (by simpa using isMark) ((sign_iff _).mp isSign)
                      ((digits _).mp run)
            | point partRun =>
                have isPart := (digits _).mp partRun
                cases isExponent with
                | absent => simpa using .fraction isWhole isPart
                | power isMark isSign run =>
                    exact .fractionPower isWhole isPart (by simpa using isMark)
                      ((sign_iff _).mp isSign) ((digits _).mp run)
  · intro literal
    cases literal with
    | @radix mark _ radix isMark isWord =>
        exact .radix ((radix.mem_marks_iff mark).mp isMark)
          ((run_iff_isWordOver radix.mem_digits_iff _).mpr isWord)
    | whole isWhole =>
        simpa using Numeral.decimal (.parts ((digits _).mpr isWhole) .absent .absent)
    | fraction isWhole isPart =>
        have isFraction := Fraction.point ((digits _).mpr isPart)
        simpa using Numeral.decimal (.parts ((digits _).mpr isWhole) isFraction .absent)
    | power isWhole isMark isSign isPower =>
        have isExponent := Exponent.power (by simpa using isMark) ((sign_iff _).mpr isSign)
          ((digits _).mpr isPower)
        exact .decimal (.parts ((digits _).mpr isWhole) .absent isExponent)
    | fractionPower isWhole isPart isMark isSign isPower =>
        have isFraction := Fraction.point ((digits _).mpr isPart)
        have isExponent := Exponent.power (by simpa using isMark) ((sign_iff _).mpr isSign)
          ((digits _).mpr isPower)
        exact .decimal (.parts ((digits _).mpr isWhole) isFraction isExponent)

/-- The number at the head of a text is the longest numeric literal there. -/
theorem number_isLongest_isNumericLiteral
    {c : Char}
    {rest : Text}
    (digit : isDigit c) :
    IsLongest IsNumericLiteral (c :: rest) (number (c :: rest)).text := by
  have same : Numeral = IsNumericLiteral := funext fun text => propext (numeral_iff text)
  exact same ▸ number_isLongest digit

end Lexeme

namespace Cursor

open Lexeme (IsNumericLiteral decimalDigits)

/-- Where a digit lies ahead, a cursor reads the longest numeric literal there and nothing else. -/
theorem exists_reads_number
    {cursor : Cursor}
    (digit : cursor.current ∈ decimalDigits) :
    ∃ literal rest, IsLongest IsNumericLiteral cursor.remaining literal ∧
      cursor.Reads .number ⟨.numericLiteral, literal⟩ rest := by
  cases ahead : cursor.remaining with
  | nil =>
      have atEnd : cursor.current = '\x00' := by simp [current, peekAt, ahead]
      exact absurd (atEnd ▸ digit) (by decide)
  | cons c text =>
      have isFirst : cursor.current = c := by simp [current, peekAt, ahead]
      have isDigit := (Lexeme.mem_decimalDigits_iff c).mp (isFirst ▸ digit)
      have longest : IsLongest IsNumericLiteral (c :: text) (Lexeme.number (c :: text)).text :=
        Lexeme.number_isLongest_isNumericLiteral isDigit
      obtain ⟨rest, split⟩ := longest.initial
      refine ⟨_, rest, longest, reads_of_eq (ahead.trans split.symm) ?_⟩
      rw [ahead]
      rfl

/-- A fraction and an exponent are read, and a dot and a second exponent without digits are not. -/
theorem exists_reads_number_brokenExponent :
    (start "12.50E-3e+.".toList).current ∈ decimalDigits ∧
      ∃ literal rest, IsLongest IsNumericLiteral (start "12.50E-3e+.".toList).remaining literal ∧
        (start "12.50E-3e+.".toList).Reads .number ⟨.numericLiteral, literal⟩ rest := by
  have digit : (start "12.50E-3e+.".toList).current ∈ decimalDigits := by decide
  exact ⟨digit, exists_reads_number digit⟩

end Cursor
end SqlLexer
