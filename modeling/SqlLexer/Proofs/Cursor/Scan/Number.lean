import SqlLexer.Proofs.Cursor.Stepwise
import SqlLexer.Proofs.Lexeme.Initial

/-!
# Scanning numbers

A number is consumed part by part: the digits after a radix mark, or whole digits, a fraction and an
exponent.  A look at up to three characters tells whether a part is there.
-/

namespace SqlLexer
namespace Cursor

open Lexeme

variable {cursor : Cursor}

/-! ## Scanners -/

/-- The radix of the literal ahead, if a zero, its mark and one of its digits are there. -/
def radixAhead? (cursor : Cursor) : Option Radix :=
  if cursor.current = '0' then
    (Radix.ofMark? cursor.peek).filter fun radix => radix.isDigit (cursor.peekAt 2)
  else none

/-- Consumes a dot and the digits behind it, if there are any. -/
def goOnFraction (cursor : Cursor) : Part Cursor :=
  if cursor.current = '.' ∧ isDigit cursor.peek then cursor.advance.2.goOnWhile isDigit
  else .some cursor

/-- Consumes the mark of an exponent, its sign and its digits, if there are any. -/
def goOnExponent (cursor : Cursor) : Part Cursor :=
  if cursor.current = 'e' ∨ cursor.current = 'E' then
    let width := if cursor.peek = '+' ∨ cursor.peek = '-' then 2 else 1
    if isDigit (cursor.peekAt width) then (cursor.advanceEach width).goOnWhile isDigit
    else .some cursor
  else .some cursor

/-- Consumes a number. -/
def goOnNumber (cursor : Cursor) : Part Cursor :=
  match cursor.radixAhead? with
  | some radix => (cursor.advanceEach 2).goOnWhile radix.isDigit
  | none => do
      let afterWhole ← cursor.goOnWhile isDigit
      let afterFraction ← afterWhole.goOnFraction
      afterFraction.goOnExponent

/-! ## What a look ahead tells -/

/-- A run of characters is as empty as the look at its first character tells. -/
theorem isEmpty_takeWhile
    {condition : Char → Bool}
    (stops : condition '\x00' = false)
    (text : Text) :
    (text.takeWhile condition).isEmpty = !condition (text.headD '\x00') := by
  cases text with
  | nil => simp [stops]
  | cons c rest => cases goesOn : condition c <;> simp [goesOn]

theorem radix_stops (radix : Radix) : radix.isDigit '\x00' = false := by
  cases radix <;> decide

/-- A radix mark and a digit are seen by looking at three characters. -/
theorem radixLiteral?_remaining (cursor : Cursor) :
    radixLiteral? cursor.remaining = cursor.radixAhead?.map fun radix =>
      cursor.remaining.take 2 ++ (cursor.remaining.drop 2).takeWhile radix.isDigit := by
  have current_eq : cursor.current = cursor.remaining.headD '\x00' := cursor.peekAt_eq_headD 0
  have peek_eq : cursor.peek = (cursor.remaining.drop 1).headD '\x00' := cursor.peekAt_eq_headD 1
  rw [radixAhead?, current_eq, peek_eq, peekAt_eq_headD]
  match cursor.remaining with
  | [] => rfl
  | [zero] => simp [radixLiteral?, Radix.ofMark?]
  | zero :: mark :: rest =>
      by_cases isZero : zero = '0'
      · cases isMark : Radix.ofMark? mark with
        | none => simp [radixLiteral?, isZero, isMark]
        | some radix =>
            have first := isEmpty_takeWhile (radix_stops radix) rest
            cases digits : rest.takeWhile radix.isDigit <;> rw [digits] at first <;>
              simp_all [-List.takeWhile_eq_nil_iff, radixLiteral?, Option.filter]
      · simp [radixLiteral?, isZero]

theorem fraction_cons (point : Char) (rest : Text) :
    fraction (point :: rest) =
      if point = '.' ∧ isDigit (rest.headD '\x00') then point :: rest.takeWhile isDigit
      else [] := by
  have stops : isDigit '\x00' = false := by decide
  have first := isEmpty_takeWhile stops rest
  cases digits : rest.takeWhile isDigit <;> rw [digits] at first <;>
    simp_all [-List.takeWhile_eq_nil_iff, fraction]

theorem exponent_cons (mark : Char) (rest : Text) :
    exponent (mark :: rest) =
      if (mark = 'e' ∨ mark = 'E') ∧ isDigit ((rest.drop (sign rest).length).headD '\x00') then
        mark :: (sign rest ++ (rest.drop (sign rest).length).takeWhile isDigit)
      else [] := by
  have stops : isDigit '\x00' = false := by decide
  have first := isEmpty_takeWhile stops (rest.drop (sign rest).length)
  cases digits : (rest.drop (sign rest).length).takeWhile isDigit <;> rw [digits] at first <;>
    simp_all [-List.takeWhile_eq_nil_iff, exponent]

/-! ## Parts of a number -/

/-- A point is consumed with the digits behind it if there are any. -/
theorem goOnFraction_eq (cursor : Cursor) :
    cursor.goOnFraction = .some (cursor.pass (fraction cursor.remaining)) := by
  cases ahead : cursor.remaining with
  | nil =>
      rw [goOnFraction, current_of_eq_nil ahead]
      rfl
  | cons point rest =>
      rw [goOnFraction, current_of_eq_cons ahead, peek_of_eq_cons ahead, fraction_cons]
      split
      · rw [advance_of_eq_cons ahead, goOnWhile_of_stops (by decide), advanceWhile,
          remaining_pass_cons ahead, pass_pass_cons]
      · rfl

theorem width_sign (rest : Text) :
    (if rest.headD '\x00' = '+' ∨ rest.headD '\x00' = '-' then 2 else 1) =
      (sign rest).length + 1 := by
  cases rest with
  | nil => rfl
  | cons c rest =>
      rw [sign, List.headD_cons]
      split <;> rfl

/-- An exponent is consumed with its sign if there are digits behind it. -/
theorem goOnExponent_eq (cursor : Cursor) :
    cursor.goOnExponent = .some (cursor.pass (exponent cursor.remaining)) := by
  cases ahead : cursor.remaining with
  | nil =>
      rw [goOnExponent, current_of_eq_nil ahead]
      rfl
  | cons mark rest =>
      have signed := List.prefix_iff_eq_take.mp (sign_initial rest)
      have width : cursor.advanceEach ((sign rest).length + 1) =
          cursor.pass (mark :: sign rest) := by
        rw [advanceEach_eq, advanceBy, ahead, List.take_succ_cons, ← signed]
      have behind : (cursor.pass (mark :: sign rest)).remaining = rest.drop (sign rest).length := by
        have initial : mark :: sign rest <+: cursor.remaining := by
          rw [ahead]
          exact List.cons_prefix_cons.mpr ⟨rfl, sign_initial rest⟩
        rw [remaining_pass_initial initial, ahead, List.length_cons, List.drop_succ_cons]
      have first : cursor.peekAt ((sign rest).length + 1) =
          (rest.drop (sign rest).length).headD '\x00' := by
        rw [peekAt_eq_headD, ahead, List.drop_succ_cons]
      rw [goOnExponent, current_of_eq_cons ahead, peek_of_eq_cons ahead, width_sign,
        exponent_cons]
      dsimp only
      rw [first, width, goOnWhile_of_stops (by decide), advanceWhile, behind, ← pass_append,
        List.cons_append]
      by_cases isMark : mark = 'e' ∨ mark = 'E'
      · simp only [isMark, if_true, true_and]
        split <;> rfl
      · simp only [isMark, if_false, false_and]
        rfl

/-- A number is consumed as the literal that is read. -/
theorem goOnNumber_eq (cursor : Cursor) :
    cursor.goOnNumber = .some (cursor.pass (number cursor.remaining).text) := by
  have literal := cursor.radixLiteral?_remaining
  rw [goOnNumber]
  cases isRadix : cursor.radixAhead? with
  | some radix =>
      rw [isRadix] at literal
      dsimp only
      rw [advanceEach_eq, goOnWhile_of_stops (radix_stops radix), advanceWhile, remaining_advanceBy,
        advanceBy, ← pass_append, number, literal]
      rfl
  | none =>
      rw [isRadix] at literal
      dsimp only
      rw [goOnWhile_of_stops (by decide), Part.bind_eq_bind, Part.bind_some, goOnFraction_eq,
        Part.bind_eq_bind, Part.bind_some, goOnExponent_eq,
        remaining_pass_initial (fraction_initial _), advanceWhile,
        remaining_pass_initial (List.takeWhile_prefix _), ← pass_append, ← pass_append,
        ← List.append_assoc, number, literal]
      rfl

end Cursor
end SqlLexer
