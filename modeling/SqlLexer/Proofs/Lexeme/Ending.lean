import Mathlib.Data.List.Basic
import Mathlib.Data.List.TakeWhile
import SqlLexer.Proofs.Lexeme.Delimiter
import SqlLexer.Proofs.Lexeme.Numeral
import SqlLexer.Proofs.Lexeme.Opener

/-!
# How lexemes end

The last character of a lexeme and the character after it never open a comment, unless the
lexeme is a comment or has an opener inside.
-/

namespace SqlLexer
namespace Lexeme

theorem takeWhile_getLast? (condition : Char → Bool) (text : Text) :
    ∀ c ∈ (text.takeWhile condition).getLast?, condition c :=
  fun _ last => List.mem_takeWhile_imp (List.mem_of_getLast? last)

/-- A quoted text has everything that is left or ends in its mark. -/
theorem quoted_ends (quote : Char) (rest : Text) :
    quoted quote (quote :: rest) = quote :: rest ∨
      (quoted quote (quote :: rest)).getLast? = some quote := by
  have body : quoted quote (quote :: rest) = quote :: quotedBody quote rest := rfl
  rw [body]
  rcases quotedBody_ends quote rest with whole | closed
  · exact .inl (by rw [whole])
  · exact .inr (by simp [List.getLast?_cons, closed])

theorem Delimiter.getLast?_eq
    {delimiter : Text}
    (isDelimiter : Delimiter delimiter) :
    delimiter.getLast? = some '$' := by
  cases isDelimiter with
  | tagged opener isTag => rw [← List.cons_append, List.getLast?_concat]

/-- A dollar-quoted string has everything that is left or ends in a dollar. -/
theorem dollarQuotedString_ends (c : Char) (rest : Text) :
    (dollarQuotedString (c :: rest)).text = c :: rest ∨
      (dollarQuotedString (c :: rest)).text = [c] ∨
      (dollarQuotedString (c :: rest)).text.getLast? = some '$' := by
  unfold dollarQuotedString
  split
  · rename_i delimiter found
    obtain ⟨isDelimiter, body, split⟩ := (dollarDelimiter?_eq_some_iff _ _).mp found
    rw [← split, List.drop_left]
    rcases Text.isCutAtFirst_or_throughFirst_eq delimiter body with
      ⟨before, after, cut⟩ | ⟨_, whole⟩
    · refine .inr (.inr ?_)
      simp [cut.throughFirst_eq, isDelimiter.getLast?_eq]
    · exact .inl (by rw [whole])
  · exact .inr (.inl rfl)

theorem Radix.isDigit_hexadecimal
    {radix : Radix}
    {c : Char}
    (digit : radix.isDigit c) :
    Radix.hexadecimal.isDigit c := by
  cases radix <;>
    simp only [Radix.isDigit, SqlLexer.isDigit, Bool.and_eq_true, Bool.or_eq_true,
      decide_eq_true_eq, Char.le_def, UInt32.le_iff_toNat_le, Char.reduceVal,
      UInt32.reduceToNat] at digit ⊢ <;>
    omega

theorem Run.getLast?_append
    {condition : Char → Bool}
    {digits : Text}
    (run : Run condition digits)
    (front : Text) :
    ∀ c ∈ (front ++ digits).getLast?, condition c := by
  intro c last
  rw [List.getLast?_append_of_ne_nil _ run.nonempty] at last
  exact run.all c (List.mem_of_getLast? last)

theorem Decimal.getLast?
    {text : Text}
    (decimal : Decimal text) :
    ∀ c ∈ text.getLast?, isDigit c := by
  cases decimal with
  | @parts whole part power run isFraction isExponent =>
      cases isExponent with
      | @power mark signed digits _ _ runPower =>
          have ends := runPower.getLast?_append (whole ++ (part ++ mark :: signed))
          simpa using ends
      | absent =>
          cases isFraction with
          | absent => simpa using run.getLast?_append []
          | point runPart => simpa using runPart.getLast?_append (whole ++ ['.'])

/-- A numeral ends in a digit of some radix. -/
theorem Numeral.getLast?
    {text : Text}
    (numeral : Numeral text) :
    ∀ c ∈ text.getLast?, Radix.hexadecimal.isDigit c := by
  intro c last
  cases numeral with
  | @radix mark _ digits _ run =>
      exact Radix.isDigit_hexadecimal (run.getLast?_append ['0', mark] c last)
  | decimal decimal => simp [Radix.isDigit, decimal.getLast? c last]

/-- A text that cannot end in the first character of an opener gets none from what follows. -/
theorem hasCommentOpener_append_take_of_getLast?
    {text : Text}
    (closed : hasCommentOpener text = false)
    (last : ∀ c ∈ text.getLast?, c ≠ '-' ∧ c ≠ '/')
    (after : Text) :
    hasCommentOpener (text ++ after.take 1) = false := by
  apply hasCommentOpener_append_take closed
  rintro c isLast d _ (⟨isMinus, _⟩ | ⟨isSlash, _⟩)
  · exact (last c isLast).1 isMinus
  · exact (last c isLast).2 isSlash

/-- A lexeme that reaches to the end of the text, or ends in a character that opens nothing,
gets no opener from what follows. -/
theorem hasCommentOpener_append_take_of_ends
    {text after whole : Text}
    {c : Char}
    (closed : hasCommentOpener text = false)
    (split : text ++ after = whole)
    (ends : text = whole ∨ text.getLast? = some c)
    (other : c ≠ '-' ∧ c ≠ '/') :
    hasCommentOpener (text ++ after.take 1) = false := by
  rcases ends with rfl | last
  · rw [List.append_right_eq_self.mp split]
    simpa using closed
  · apply hasCommentOpener_append_take_of_getLast? closed
    rw [last]
    rintro d ⟨⟩
    exact other

theorem lineComment_hasCommentOpener
    {text : Text}
    (opener : lineOpener.isPrefixOf text) :
    hasCommentOpener (lineComment text).text := by
  obtain ⟨rest, rfl⟩ := List.isPrefixOf_iff_prefix.mp opener
  rfl

theorem blockComment_hasCommentOpener
    {text : Text}
    (opener : blockOpener.isPrefixOf text) :
    hasCommentOpener (blockComment text).text := by
  obtain ⟨rest, rfl⟩ := List.isPrefixOf_iff_prefix.mp opener
  rfl

/-- An operator of the table stops short of an opener. -/
theorem longestOperator?_apart
    {operator after : Text}
    (found : longestOperator? (operator ++ after) = some operator) :
    hasCommentOpener (operator ++ after.take 1) = false := by
  have admitted := List.find?_some found
  rw [admits, Bool.and_eq_true, Bool.not_eq_true', List.take_length_add_append] at admitted
  exact admitted.2

/-- One character of code does not open a comment with the next one. -/
theorem hasCommentOpener_singleton_append_take
    {c : Char}
    {after : Text}
    (code : startsComment (c :: after) = false) :
    hasCommentOpener ([c] ++ after.take 1) = false := by
  apply hasCommentOpener_append_take (hasCommentOpener_take_one [c])
  intro d isLast e isNext opens
  cases isLast
  rw [Bool.eq_false_iff, Ne, startsComment_cons] at code
  exact code ⟨e, isNext, opens⟩

/-- A lexeme without a comment opener inside does not open a comment with the character after
it either. -/
theorem First.apart
    {lexeme : Lexeme}
    {after : Text}
    (first : First (lexeme.text ++ after) lexeme)
    (closed : hasCommentOpener lexeme.text = false) :
    hasCommentOpener (lexeme.text ++ after.take 1) = false := by
  generalize split : lexeme.text ++ after = text at first
  cases first with
  | whitespace space =>
      refine hasCommentOpener_append_take_of_getLast? closed (fun c last => ?_) after
      have isSpace := takeWhile_getLast? _ _ c last
      exact ⟨ne_of_class isSpace '-' (by decide), ne_of_class isSpace '/' (by decide)⟩
  | lineComment opener =>
      rw [lineComment_hasCommentOpener opener] at closed
      contradiction
  | blockComment opener =>
      rw [blockComment_hasCommentOpener opener] at closed
      contradiction
  | number digit =>
      refine hasCommentOpener_append_take_of_getLast? closed (fun c last => ?_) after
      have isDigit := (number_isLongest digit).belongs.getLast? c last
      exact ⟨ne_of_class isDigit '-' (by decide), ne_of_class isDigit '/' (by decide)⟩
  | @stringLiteral rest =>
      exact hasCommentOpener_append_take_of_ends closed split (quoted_ends singleQuote rest)
        (by decide)
  | @dollarQuotedString rest =>
      rcases dollarQuotedString_ends '$' rest with whole | single | last
      · exact hasCommentOpener_append_take_of_ends (c := '$') closed split (.inl whole)
          (by decide)
      · exact hasCommentOpener_append_take_of_ends (c := '$') closed split
          (.inr (by rw [single]; rfl)) (by decide)
      · exact hasCommentOpener_append_take_of_ends closed split (.inr last) (by decide)
  | @quotedIdentifier rest =>
      exact hasCommentOpener_append_take_of_ends closed split (quoted_ends doubleQuote rest)
        (by decide)
  | word letter =>
      refine hasCommentOpener_append_take_of_getLast? closed (fun c last => ?_) after
      have isPart := takeWhile_getLast? _ _ c last
      exact ⟨ne_of_class isPart '-' (by decide), ne_of_class isPart '/' (by decide)⟩
  | @punctuation c rest kind mark =>
      obtain ⟨_, _, _, _, _, _, notMinus, notSlash⟩ :=
        outside_of_isPunctuation (punctuation?_of_eq_some mark)
      refine hasCommentOpener_append_take_of_getLast? closed (fun d last => ?_) after
      cases last
      exact ⟨notMinus, notSlash⟩
  | @operator c rest symbol code found =>
      cases longest : longestOperator? (c :: rest) with
      | none =>
          have single : (Lexeme.operator (c :: rest)).text = [c] := by
            simp [Lexeme.operator, longest]
          rw [single] at split ⊢
          cases split
          exact hasCommentOpener_singleton_append_take code
      | some operator =>
          have whole : (Lexeme.operator (c :: rest)).text = operator := by
            simp [Lexeme.operator, longest]
          rw [whole] at split ⊢
          rw [← split] at longest
          exact longestOperator?_apart longest
  | unknown symbol code missing =>
      cases split
      exact hasCommentOpener_singleton_append_take code

end Lexeme
end SqlLexer
