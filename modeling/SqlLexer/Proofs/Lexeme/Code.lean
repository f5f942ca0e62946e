import SqlLexer.Proofs.Lexeme.Ending
import SqlLexer.Proofs.Lexeme.Numeral

/-!
# Code holds no comment openers

Comments, strings and quoted identifiers may hold any text.  In a lexeme of another kind no two
characters next to each other open a comment.
-/

namespace SqlLexer

/-- The kinds of lexemes that may hold any text between their ends. -/
def Kind.enclosing : List Kind :=
  [.lineComment, .blockComment, .stringLiteral, .quotedIdentifier, .dollarQuotedString]

namespace Lexeme

/-- A text has no opener if a longer one has none. -/
theorem hasCommentOpener_of_append
    {text after : Text}
    (closed : hasCommentOpener (text ++ after) = false) :
    hasCommentOpener text = false := by
  rw [Bool.eq_false_iff]
  intro opens
  rw [hasCommentOpener_append_of_left opens] at closed
  contradiction

theorem hasCommentOpener_cons_of_ne
    {c : Char}
    (notMinus : c ≠ '-')
    (notSlash : c ≠ '/')
    (rest : Text) :
    hasCommentOpener (c :: rest) = hasCommentOpener rest := by
  rw [hasCommentOpener_cons, startsComment_of_ne notMinus notSlash, Bool.false_or]

/-- Characters of a class without minus and slash have no part in an opener. -/
theorem hasCommentOpener_append_of_class
    {condition : Char → Bool}
    (noMinus : condition '-' = false)
    (noSlash : condition '/' = false)
    {first : Text}
    (all : ∀ c ∈ first, condition c)
    (second : Text) :
    hasCommentOpener (first ++ second) = hasCommentOpener second := by
  induction first with
  | nil => rfl
  | cons c rest inductionHypothesis =>
      rw [List.forall_mem_cons] at all
      rw [List.cons_append, hasCommentOpener_cons_of_ne (ne_of_class all.1 '-' noMinus)
        (ne_of_class all.1 '/' noSlash), inductionHypothesis all.2]

theorem hasCommentOpener_of_class
    {condition : Char → Bool}
    (noMinus : condition '-' = false)
    (noSlash : condition '/' = false)
    {text : Text}
    (all : ∀ c ∈ text, condition c) :
    hasCommentOpener text = false := by
  have closed := hasCommentOpener_append_of_class noMinus noSlash all []
  rwa [List.append_nil] at closed

/-! ## Numerals -/

theorem Radix.isDigit_eq_false
    (radix : Radix)
    {c : Char}
    (outside : Radix.hexadecimal.isDigit c = false) :
    radix.isDigit c = false := by
  rw [Bool.eq_false_iff]
  intro digit
  rw [Radix.isDigit_hexadecimal digit] at outside
  contradiction

/-- A fraction in front of a text opens no comment of its own. -/
theorem Fraction.hasCommentOpener_append
    {part : Text}
    (fraction : Fraction part)
    (after : Text) :
    hasCommentOpener (part ++ after) = hasCommentOpener after := by
  cases fraction with
  | absent => rfl
  | point run =>
      rw [List.cons_append, hasCommentOpener_cons_of_ne (by decide) (by decide),
        hasCommentOpener_append_of_class (by decide) (by decide) run.all]

/-- The sign of an exponent stands before a digit. -/
theorem Exponent.hasCommentOpener_eq
    {power : Text}
    (exponent : Exponent power) :
    hasCommentOpener power = false := by
  cases exponent with
  | absent => rfl
  | @power mark signed digits isMark sign run =>
      have closed : hasCommentOpener digits = false :=
        hasCommentOpener_of_class (by decide) (by decide) run.all
      have notMark : mark ≠ '-' ∧ mark ≠ '/' := by
        rcases isMark with rfl | rfl <;> decide
      rw [hasCommentOpener_cons_of_ne notMark.1 notMark.2]
      cases sign with
      | absent => exact closed
      | plus => exact (hasCommentOpener_cons_of_ne (by decide) (by decide) digits).trans closed
      | minus =>
          have apart : startsComment ('-' :: digits) = false := by
            rw [Bool.eq_false_iff, Ne, startsComment_cons]
            rintro ⟨d, isNext, ⟨_, rfl⟩ | ⟨_, rfl⟩⟩
            · exact absurd (run.all '-' (List.mem_of_mem_head? isNext)) (by decide)
            · exact absurd (run.all '*' (List.mem_of_mem_head? isNext)) (by decide)
          rw [List.singleton_append, hasCommentOpener_cons, apart, closed]
          rfl

/-- No comment begins within a number. -/
theorem Numeral.hasCommentOpener_eq
    {text : Text}
    (numeral : Numeral text) :
    hasCommentOpener text = false := by
  cases numeral with
  | @radix mark radix digits stands run =>
      have notMark : mark ≠ '-' ∧ mark ≠ '/' := by
        constructor <;> rintro rfl <;> simp [Radix.ofMark?] at stands
      rw [hasCommentOpener_cons_of_ne (by decide) (by decide),
        hasCommentOpener_cons_of_ne notMark.1 notMark.2]
      exact hasCommentOpener_of_class (radix.isDigit_eq_false (by decide))
        (radix.isDigit_eq_false (by decide)) run.all
  | decimal decimal =>
      cases decimal with
      | parts run fraction exponent =>
          rw [hasCommentOpener_append_of_class (by decide) (by decide) run.all,
            fraction.hasCommentOpener_append, exponent.hasCommentOpener_eq]

/-! ## All lexemes of code -/

theorem hasCommentOpener_operator (c : Char) (rest : Text) :
    hasCommentOpener (operator (c :: rest)).text = false := by
  unfold operator
  cases found : longestOperator? (c :: rest) with
  | none => exact hasCommentOpener_take_one (c :: rest)
  | some operator =>
      obtain ⟨after, split⟩ := longestOperator?_initial found
      rw [← split] at found
      exact hasCommentOpener_of_append (longestOperator?_apart found)

/-- No comment opens inside a lexeme of code, and none across its end. -/
theorem First.hasCommentOpener_of_code
    {lexeme : Lexeme}
    {after : Text}
    (first : First (lexeme.text ++ after) lexeme)
    (code : lexeme.kind ∉ Kind.enclosing) :
    hasCommentOpener (lexeme.text ++ after.take 1) = false := by
  -- No opener lies across the end of any lexeme, so only the inside is left, kind by kind.
  apply first.apart
  generalize lexeme.text ++ after = text at first
  cases first with
  | whitespace space =>
      exact hasCommentOpener_of_class (by decide) (by decide) fun _ => List.mem_takeWhile_imp
  | number digit => exact (number_isLongest digit).belongs.hasCommentOpener_eq
  | dollarQuotedString =>
      revert code
      unfold Lexeme.dollarQuotedString
      split
      · intro code
        simp [Kind.enclosing] at code
      · intro _
        exact hasCommentOpener_take_one _
  | word letter =>
      exact hasCommentOpener_of_class (by decide) (by decide) fun _ => List.mem_takeWhile_imp
  | punctuation mark => exact hasCommentOpener_take_one [_]
  | operator symbol code found => exact hasCommentOpener_operator _ _
  | unknown symbol code missing => exact hasCommentOpener_take_one [_]
  | _ =>
      simp [Kind.enclosing, Lexeme.lineComment, Lexeme.blockComment, Lexeme.stringLiteral,
        Lexeme.quotedIdentifier] at code

end Lexeme
end SqlLexer
