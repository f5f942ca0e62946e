import SqlLexer.CharClass
import SqlLexer.Lexeme.Basic

/-!
# Numeric literals

A literal is a radix mark with digits of that radix, or decimal digits with an optional
fraction and an optional exponent.  A fraction or an exponent without digits is not part of the
literal.
-/

namespace SqlLexer
namespace Lexeme

/-- The radixes other than ten. -/
inductive Radix where
  | binary
  | octal
  | hexadecimal
deriving DecidableEq

/-- The radix that the letter after a leading zero stands for. -/
def Radix.ofMark? (c : Char) : Option Radix :=
  if c = 'x' ∨ c = 'X' then some .hexadecimal
  else if c = 'b' ∨ c = 'B' then some .binary
  else if c = 'o' ∨ c = 'O' then some .octal
  else none

/-- Whether a character is a digit in the radix. -/
def Radix.isDigit : Radix → Char → Bool
  | .binary, c => '0' ≤ c && c ≤ '1'
  | .octal, c => '0' ≤ c && c ≤ '7'
  | .hexadecimal, c =>
      SqlLexer.isDigit c || ('a' ≤ c && c ≤ 'f') || ('A' ≤ c && c ≤ 'F')

/-- A leading zero, a radix mark and at least one digit. -/
def radixLiteral? : Text → Option Text
  | zero :: mark :: rest =>
      if zero = '0' then
        match Radix.ofMark? mark with
        | some radix =>
            match rest.takeWhile radix.isDigit with
            | [] => none
            | digits => some (zero :: mark :: digits)
        | none => none
      else none
  | _ => none

/-- A dot and at least one digit, or nothing. -/
def fraction : Text → Text
  | point :: rest =>
      if point = '.' then
        match rest.takeWhile isDigit with
        | [] => []
        | digits => point :: digits
      else []
  | [] => []

/-- A plus or a minus, or nothing. -/
def sign : Text → Text
  | c :: _ => if c = '+' ∨ c = '-' then [c] else []
  | [] => []

/-- An exponent mark, an optional sign and at least one digit, or nothing. -/
def exponent : Text → Text
  | mark :: rest =>
      if mark = 'e' ∨ mark = 'E' then
        match (rest.drop (sign rest).length).takeWhile isDigit with
        | [] => []
        | digits => mark :: (sign rest ++ digits)
      else []
  | [] => []

/-- Digits, a fraction and an exponent, each as far as it is there. -/
def decimalLiteral (text : Text) : Text :=
  let whole := text.takeWhile isDigit
  let afterWhole := text.drop whole.length
  let part := fraction afterWhole
  whole ++ part ++ exponent (afterWhole.drop part.length)

/-- The numeric literal at the head of a text. -/
def number (text : Text) : Lexeme :=
  ⟨.numericLiteral, (radixLiteral? text).getD (decimalLiteral text)⟩

end Lexeme
end SqlLexer
