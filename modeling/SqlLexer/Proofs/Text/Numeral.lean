import SqlLexer.Text.Basic

/-!
# Numbers read back

The digits of a number are read from the left.  What is read from the digits that a number is
written with is that number.
-/

namespace SqlLexer
namespace Text

/-- The value of a hexadecimal digit. -/
def hexDigit? (c : Char) : Option Nat :=
  if '0' ≤ c ∧ c ≤ '9' then some (c.toNat - 0x30)
  else if 'a' ≤ c ∧ c ≤ 'f' then some (c.toNat - 0x61 + 10)
  else if 'A' ≤ c ∧ c ≤ 'F' then some (c.toNat - 0x41 + 10)
  else none

/-- The number that a row of hexadecimal digits spells. -/
def ofHexadecimal? (digits : Text) : Option Nat :=
  digits.foldlM (fun value c => (hexDigit? c).map (16 * value + ·)) 0

/-- The number that a row of decimal digits spells. -/
def ofDecimal (digits : Text) : Nat :=
  Nat.ofDigitChars 10 digits 0

theorem hexDigit?_digitChar
    {digit : Nat}
    (small : digit < 16) :
    hexDigit? digit.digitChar = some digit := by
  have all : ∀ digit < 16, hexDigit? (Nat.digitChar digit) = some digit := by decide
  exact all digit small

@[simp] theorem ofHexadecimal?_hexadecimal (number : Nat) :
    ofHexadecimal? (hexadecimal number) = some number := by
  unfold hexadecimal
  induction number using Nat.strongRecOn with
  | ind number inductionHypothesis =>
      rcases Nat.lt_or_ge number 16 with small | large
      · rw [Nat.toDigits_of_lt_base small]
        simp [ofHexadecimal?, hexDigit?_digitChar small]
      · have front := inductionHypothesis (number / 16) (Nat.div_lt_self (by omega) (by decide))
        unfold ofHexadecimal? at front ⊢
        rw [Nat.toDigits_of_base_le (by decide) large, List.foldlM_append, front]
        simp [hexDigit?_digitChar (Nat.mod_lt number (by decide)), Nat.div_add_mod]

/-- What holds of the sixteen digits holds of the digits of every number. -/
theorem forall_mem_hexadecimal
    (condition : Char → Prop)
    (digits : ∀ digit < 16, condition (Nat.digitChar digit))
    (number : Nat) :
    ∀ c ∈ hexadecimal number, condition c := by
  unfold hexadecimal
  induction number using Nat.strongRecOn with
  | ind number inductionHypothesis =>
      rcases Nat.lt_or_ge number 16 with small | large
      · rw [Nat.toDigits_of_lt_base small]
        simpa using digits number small
      · rw [Nat.toDigits_of_base_le (by decide) large, List.forall_mem_append]
        exact ⟨inductionHypothesis (number / 16) (Nat.div_lt_self (by omega) (by decide)),
          by simpa using digits _ (Nat.mod_lt number (by decide))⟩

theorem isDigit_of_mem_decimal
    {number : Nat}
    {c : Char}
    (member : c ∈ decimal number) :
    c.isDigit :=
  Nat.isDigit_of_mem_toDigits (by decide) (by decide) member

/-- A number is read back from its decimal digits. -/
@[simp] theorem ofDecimal_decimal (number : Nat) : ofDecimal (decimal number) = number :=
  Nat.ofDigitChars_ten_toDigits

/-- No number but zero is written with a zero in front. -/
theorem head_decimal_ne
    {number : Nat}
    (positive : 0 < number) :
    (decimal number).head? ≠ some '0' := by
  unfold decimal
  induction number using Nat.strongRecOn with
  | ind number inductionHypothesis =>
      rcases Nat.lt_or_ge number 10 with small | large
      · have all : ∀ digit < 10, 0 < digit → Nat.digitChar digit ≠ '0' := by decide
        rw [Nat.toDigits_of_lt_base small]
        simpa using all number small positive
      · have front := inductionHypothesis (number / 10) (Nat.div_lt_self (by omega) (by decide))
          (Nat.div_pos large (by decide))
        rw [Nat.toDigits_of_base_le (by decide) large, List.head?_append]
        cases split : (Nat.toDigits 10 (number / 10)).head? with
        | none => exact absurd (List.head?_eq_none_iff.mp split) Nat.toDigits_ne_nil
        | some c =>
            rw [split] at front
            exact front

end Text
end SqlLexer
