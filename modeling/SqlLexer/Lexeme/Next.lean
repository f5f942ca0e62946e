import SqlLexer.Lexeme.Form
import SqlLexer.Word.Keywords

/-!
# The next lexeme of a text

The head of a text decides the form of its first lexeme.  The first lexeme of a text that is
not empty is not empty either, so a text falls apart into finitely many lexemes.
-/

namespace SqlLexer
namespace Lexeme

/-- An unquoted word: a keyword if the table of keywords has it, otherwise an identifier. -/
def word (text : Text) : Lexeme :=
  let spelling := text.takeWhile isIdentifierPart
  ⟨if Word.isKeyword spelling then .keyword else .identifier, spelling⟩

/-- The kind of a punctuation character. -/
def punctuation? (c : Char) : Option Kind :=
  if c = '(' then some .openParen
  else if c = ')' then some .closeParen
  else if c = '[' then some .openBracket
  else if c = ']' then some .closeBracket
  else if c = ';' then some .semicolon
  else if c = ',' then some .comma
  else if c = '.' then some .dot
  else none

/-- The first lexeme of a text. -/
def next (text : Text) : Lexeme :=
  match text with
  | [] => ⟨.unknown, []⟩
  | c :: _ =>
      if isWhitespace c then ⟨.whitespace, text.takeWhile isWhitespace⟩
      else if lineOpener.isPrefixOf text then lineComment text
      else if blockOpener.isPrefixOf text then blockComment text
      else if isDigit c then number text
      else if c = singleQuote then stringLiteral text
      else if c = '$' then dollarQuotedString text
      else if c = doubleQuote then quotedIdentifier text
      else if isIdentifierStart c then word text
      else
        match punctuation? c with
        | some kind => ⟨kind, [c]⟩
        | none =>
            if isOperatorChar c || (longestOperator? text).isSome then operator text
            else ⟨.unknown, [c]⟩

/-- A literal with a radix mark is not empty. -/
theorem radixLiteral?_ne_nil
    {text literal : Text}
    (found : radixLiteral? text = some literal) :
    literal ≠ [] := by
  unfold radixLiteral? at found
  split at found
  · split at found
    · split at found
      · split at found
        · cases found
        · cases found
          simp
      · cases found
    · cases found
  · cases found

/-- A text that starts with a decimal digit has at least that digit in its number. -/
theorem number_text_ne_nil
    {c : Char}
    {rest : Text}
    (digit : isDigit c) :
    (number (c :: rest)).text ≠ [] := by
  unfold number
  cases found : radixLiteral? (c :: rest) with
  | none => simp [decimalLiteral, digit]
  | some literal => exact radixLiteral?_ne_nil found

/-- An operator takes at least one character of a text that has one. -/
theorem operator_text_ne_nil (c : Char) (rest : Text) : (operator (c :: rest)).text ≠ [] := by
  unfold operator
  cases found : longestOperator? (c :: rest) with
  | none => simp
  | some operator =>
      have member : operator ∈ operators := List.mem_of_find?_eq_some found
      have nonempty : ∀ entry ∈ operators, entry ≠ [] := by decide
      exact nonempty operator member

/-- A dollar-quoted string takes at least one character of a text that has one. -/
theorem dollarQuotedString_text_ne_nil (c : Char) (rest : Text) :
    (dollarQuotedString (c :: rest)).text ≠ [] := by
  unfold dollarQuotedString
  cases found : dollarDelimiter? (c :: rest) with
  | none => simp
  | some delimiter =>
      simp only [dollarDelimiter?] at found
      split at found
      · split at found
        · cases found
          simp
        · cases found
      · cases found

/-- The first lexeme of a text that is not empty has at least one character. -/
theorem next_text_ne_nil (c : Char) (rest : Text) : (next (c :: rest)).text ≠ [] := by
  unfold next
  dsimp only
  split
  · simp [*]
  split
  · rename_i opener
    simp only [lineOpener, List.isPrefixOf, Bool.and_eq_true, beq_iff_eq] at opener
    simp [lineComment, ← opener.1]
  split
  · simp [blockComment]
  split
  · rename_i digit
    exact number_text_ne_nil digit
  split
  · simp [stringLiteral, quoted]
  split
  · exact dollarQuotedString_text_ne_nil c rest
  split
  · simp [quotedIdentifier, quoted]
  split
  · rename_i start
    simp [word, isIdentifierPart, start]
  split
  · simp
  split
  · exact operator_text_ne_nil c rest
  · simp

end Lexeme

/-- The lexemes of a text, in order. -/
def lexemes (text : Text) : List Lexeme :=
  match text with
  | [] => []
  | c :: rest =>
      let lexeme := Lexeme.next (c :: rest)
      lexeme :: lexemes ((c :: rest).drop lexeme.text.length)
termination_by text.length
decreasing_by
  have positive := List.length_pos_iff.mpr (Lexeme.next_text_ne_nil c rest)
  simp only [List.length_drop, List.length_cons]
  omega

@[simp] theorem lexemes_nil : lexemes [] = [] := by
  rw [lexemes]

theorem lexemes_cons (c : Char) (rest : Text) :
    lexemes (c :: rest) =
      Lexeme.next (c :: rest) ::
        lexemes ((c :: rest).drop (Lexeme.next (c :: rest)).text.length) := by
  rw [lexemes]

end SqlLexer
