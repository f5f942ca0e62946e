import Mathlib.Data.List.Find
import SqlLexer.Proofs.Lexeme.Delimiter
import SqlLexer.Proofs.Lexeme.Ending
import SqlLexer.Proofs.Word.LetterCase

/-!
# Lexemes in either case

Each form of lexeme reads from the fold of a text the fold of what it reads from the text.  Only a
dollar-quoted string is an exception, since the letters of its delimiter have to stay as they
are.
-/

namespace SqlLexer
namespace Lexeme

/-- The lexeme with its ASCII letters in upper case. -/
def fold (piece : Lexeme) : Lexeme :=
  ⟨piece.kind, Word.fold piece.text⟩

/-! ## Comments -/

/-- A line comment is as long in upper case, as no letter is a line feed. -/
theorem lineComment_fold (text : Text) :
    lineComment (Word.fold text) = (lineComment text).fold := by
  have blind : ∀ c : Char, decide (c.toUpper ≠ '\n') = decide (c ≠ '\n') := by
    intro c
    rw [decide_eq_decide, Ne, Word.toUpper_eq_iff '\n' (by decide)]
  exact congrArg (Lexeme.mk .lineComment) (Word.takeWhile_fold blind text)

/-- Neither openers nor closers of comments have letters. -/
theorem blockBody_fold (depth : Nat) (text : Text) :
    blockBody depth (Word.fold text) = Word.fold (blockBody depth text) := by
  fun_induction blockBody depth text with
  | case1 => rfl
  | case2 => rfl
  | case3 depth c d rest opener inductionHypothesis =>
      obtain ⟨rfl, rfl⟩ := opener
      have opens : Word.fold ('/' :: '*' :: rest) = '/' :: '*' :: Word.fold rest := rfl
      rw [opens, blockBody_opener, inductionHypothesis]
      rfl
  | case4 c d rest _ closer =>
      obtain ⟨rfl, rfl⟩ := closer
      have closes : Word.fold ('*' :: '/' :: rest) = '*' :: '/' :: Word.fold rest := rfl
      rw [closes, blockBody_closer_zero]
      rfl
  | case5 c d rest _ closer outer inductionHypothesis =>
      obtain ⟨rfl, rfl⟩ := closer
      have closes : Word.fold ('*' :: '/' :: rest) = '*' :: '/' :: Word.fold rest := rfl
      rw [closes, blockBody_closer_succ, inductionHypothesis]
      rfl
  | case6 depth c d rest noOpener noCloser inductionHypothesis =>
      have slash := Word.toUpper_eq_iff '/' (by decide)
      have star := Word.toUpper_eq_iff '*' (by decide)
      rw [Word.fold_cons, Word.fold_cons, blockBody_cons_cons_of_not (by rwa [slash, star])
        (by rwa [slash, star]), ← Word.fold_cons, inductionHypothesis]
      rfl

theorem blockComment_fold (text : Text) :
    blockComment (Word.fold text) = (blockComment text).fold := by
  rw [blockComment, ← Word.fold_take, ← Word.fold_drop, blockBody_fold, ← Word.fold_append]
  rfl

/-! ## Numbers -/

theorem Radix.ofMark?_toUpper (c : Char) : ofMark? c.toUpper = ofMark? c :=
  Word.apply_toUpper ofMark? (by decide) c

theorem Radix.isDigit_toUpper (radix : Radix) (c : Char) :
    radix.isDigit c.toUpper = radix.isDigit c := by
  cases radix with
  | binary => exact Word.apply_toUpper (isDigit .binary) (by decide) c
  | octal => exact Word.apply_toUpper (isDigit .octal) (by decide) c
  | hexadecimal => exact Word.apply_toUpper (isDigit .hexadecimal) (by decide) c

/-- The mark and the digits of a radix count in either case. -/
theorem radixLiteral?_fold (text : Text) :
    radixLiteral? (Word.fold text) = (radixLiteral? text).map Word.fold := by
  rcases text with _ | ⟨zero, _ | ⟨mark, rest⟩⟩
  · rfl
  · rfl
  · have isZero := Word.toUpper_eq_iff '0' (by decide) zero
    rw [Word.fold_cons, Word.fold_cons, radixLiteral?, radixLiteral?, Radix.ofMark?_toUpper]
    simp only [isZero]
    split
    · cases Radix.ofMark? mark with
      | none => rfl
      | some radix =>
          dsimp only
          rw [Word.takeWhile_fold radix.isDigit_toUpper]
          cases rest.takeWhile radix.isDigit <;> rfl
    · rfl

theorem fraction_fold (text : Text) : fraction (Word.fold text) = Word.fold (fraction text) := by
  cases text with
  | nil => rfl
  | cons point rest =>
      have isPoint := Word.toUpper_eq_iff '.' (by decide) point
      rw [Word.fold_cons, fraction, fraction, Word.takeWhile_fold Word.isDigit_toUpper]
      simp only [isPoint]
      split
      · cases rest.takeWhile isDigit <;> rfl
      · rfl

theorem sign_fold (text : Text) : sign (Word.fold text) = Word.fold (sign text) := by
  cases text with
  | nil => rfl
  | cons c rest =>
      have isPlus := Word.toUpper_eq_iff '+' (by decide) c
      have isMinus := Word.toUpper_eq_iff '-' (by decide) c
      rw [Word.fold_cons, sign, sign]
      simp only [isPlus, isMinus]
      split <;> rfl

theorem exponent_fold (text : Text) : exponent (Word.fold text) = Word.fold (exponent text) := by
  cases text with
  | nil => rfl
  | cons mark rest =>
      have isMark : (mark.toUpper = 'e' ∨ mark.toUpper = 'E') ↔ (mark = 'e' ∨ mark = 'E') := by
        rw [← decide_eq_decide]
        exact Word.apply_toUpper (fun c => decide (c = 'e' ∨ c = 'E')) (by decide) mark
      rw [Word.fold_cons, exponent, exponent, sign_fold, Word.length_fold, ← Word.fold_drop,
        Word.takeWhile_fold Word.isDigit_toUpper]
      simp only [isMark]
      split
      · cases (rest.drop (sign rest).length).takeWhile isDigit with
        | nil => rfl
        | cons digit digits => simp
      · rfl

theorem decimalLiteral_fold (text : Text) :
    decimalLiteral (Word.fold text) = Word.fold (decimalLiteral text) := by
  unfold decimalLiteral
  dsimp only
  rw [Word.takeWhile_fold Word.isDigit_toUpper, Word.length_fold, ← Word.fold_drop, fraction_fold,
    Word.length_fold, ← Word.fold_drop, exponent_fold, Word.fold_append, Word.fold_append]

/-- A number is as long in upper case. -/
theorem number_fold (text : Text) : number (Word.fold text) = (number text).fold := by
  unfold number
  rw [radixLiteral?_fold, decimalLiteral_fold]
  cases radixLiteral? text <;> rfl

/-! ## Quoted lexemes and dollars -/

/-- A quoted text ends at the same mark in upper case, as marks are no letters. -/
theorem quotedBody_fold
    {quote : Char}
    (noLetter : quote.isAlpha = false)
    (text : Text) :
    quotedBody quote (Word.fold text) = Word.fold (quotedBody quote text) := by
  have upper := Word.toUpper_of_not_isAlpha noLetter
  have isQuote := Word.toUpper_eq_iff quote noLetter
  fun_induction quotedBody quote text with
  | case1 => rfl
  | case2 =>
      simp [quotedBody, upper]
  | case3 rest inductionHypothesis =>
      simp [upper, inductionHypothesis]
  | case4 d rest different =>
      simp [quotedBody, upper, isQuote, different]
  | case5 c rest different inductionHypothesis =>
      rw [Word.fold_cons, quotedBody_cons_of_ne (by rwa [Ne, isQuote]), inductionHypothesis]
      rfl

theorem quoted_fold
    (quote : Char)
    (noLetter : quote.isAlpha = false)
    (text : Text) :
    quoted quote (Word.fold text) = Word.fold (quoted quote text) := by
  rw [quoted, ← Word.fold_take, ← Word.fold_drop, quotedBody_fold noLetter, ← Word.fold_append]
  rfl

theorem isTagPart_toUpper (c : Char) : isTagPart c.toUpper = isTagPart c :=
  Word.apply_toUpper isTagPart (by decide) c

theorem dollarTag_fold (text : Text) : dollarTag (Word.fold text) = Word.fold (dollarTag text) := by
  cases text with
  | nil => rfl
  | cons c rest =>
      rw [Word.fold_cons, dollarTag, dollarTag, Word.isIdentifierStart_toUpper,
        Word.takeWhile_fold isTagPart_toUpper]
      split <;> rfl

/-- A delimiter opens in the fold of a text exactly where one opens in the text. -/
theorem dollarDelimiter?_fold (text : Text) :
    dollarDelimiter? (Word.fold text) = (dollarDelimiter? text).map Word.fold := by
  cases text with
  | nil => rfl
  | cons opener rest =>
      rw [Word.fold_cons, dollarDelimiter?, dollarDelimiter?]
      rw [dollarTag_fold, Word.length_fold, ← Word.fold_drop]
      cases rest.drop (dollarTag rest).length with
      | nil => rfl
      | cons closer after =>
          have isDollar := Word.toUpper_eq_iff '$' (by decide) closer
          simp only [Word.fold_cons, isDollar]
          split <;> simp

/-! ## Words and operators -/

/-- A word is as long in upper case, and a keyword in either case. -/
theorem word_fold (text : Text) : word (Word.fold text) = (word text).fold := by
  unfold word
  dsimp only
  rw [Word.takeWhile_fold Word.isIdentifierPart_toUpper, Word.isKeyword_fold]
  rfl

theorem punctuation?_toUpper (c : Char) : punctuation? c.toUpper = punctuation? c :=
  Word.apply_toUpper punctuation? (by decide) c

theorem isSymbol_toUpper (c : Char) : isSymbol c.toUpper = isSymbol c :=
  Word.apply_toUpper isSymbol (by decide) c

theorem lineOpener_isPrefixOf_fold (text : Text) :
    lineOpener.isPrefixOf (Word.fold text) = lineOpener.isPrefixOf text :=
  Word.isPrefixOf_fold (by decide) text

theorem blockOpener_isPrefixOf_fold (text : Text) :
    blockOpener.isPrefixOf (Word.fold text) = blockOpener.isPrefixOf text :=
  Word.isPrefixOf_fold (by decide) text

theorem startsComment_fold (text : Text) :
    startsComment (Word.fold text) = startsComment text := by
  rw [startsComment, lineOpener_isPrefixOf_fold, blockOpener_isPrefixOf_fold]
  rfl

/-- Comments begin at the same places in upper case. -/
theorem hasCommentOpener_fold (text : Text) :
    hasCommentOpener (Word.fold text) = hasCommentOpener text := by
  induction text with
  | nil => rfl
  | cons c rest inductionHypothesis =>
      rw [Word.fold_cons, hasCommentOpener_cons, hasCommentOpener_cons, ← Word.fold_cons,
        startsComment_fold, inductionHypothesis]

theorem operators_noLetter :
    operators.all fun operator => operator.all fun c => !c.isAlpha := by
  decide

/-- The same operator lies ahead in upper case. -/
theorem longestOperator?_fold (text : Text) :
    longestOperator? (Word.fold text) = longestOperator? text := by
  unfold longestOperator?
  apply List.find?_congr
  intro operator member
  have noLetter := List.all_eq_true.mp operators_noLetter operator member
  rw [admits, admits, Word.isPrefixOf_fold noLetter, ← Word.fold_take, hasCommentOpener_fold]

theorem operator_fold (text : Text) : operator (Word.fold text) = (operator text).fold := by
  unfold operator
  rw [longestOperator?_fold, ← Word.fold_take]
  cases found : longestOperator? text with
  | none => rfl
  | some operator =>
      have member : operator ∈ operators := List.mem_of_find?_eq_some found
      have noLetter := List.all_eq_true.mp operators_noLetter operator member
      exact congrArg (Lexeme.mk .operator) (Word.fold_of_noLetter noLetter).symm

/-! ## The first lexeme -/

/-- The first lexeme of a text that is no dollar-quoted string is that of the fold, folded. -/
theorem First.fold
    {text : Text}
    {piece : Lexeme}
    (first : First text piece)
    (noDollar : piece.kind ≠ .dollarQuotedString) :
    First (Word.fold text) piece.fold := by
  cases first with
  | @whitespace c rest space =>
      rw [Lexeme.fold, ← Word.takeWhile_fold Word.isWhitespace_toUpper]
      exact .whitespace (by rwa [Word.isWhitespace_toUpper])
  | @lineComment c rest opener =>
      rw [← lineComment_fold]
      exact .lineComment ((lineOpener_isPrefixOf_fold (c :: rest)).trans opener)
  | @blockComment c rest opener =>
      rw [← blockComment_fold]
      exact .blockComment ((blockOpener_isPrefixOf_fold (c :: rest)).trans opener)
  | @number c rest digit =>
      rw [← number_fold]
      exact .number (by rwa [Word.isDigit_toUpper])
  | @stringLiteral rest =>
      have same := quoted_fold singleQuote (by decide) (singleQuote :: rest)
      rw [Lexeme.fold, Lexeme.stringLiteral, ← same]
      exact .stringLiteral
  | @dollarQuotedString rest =>
      -- A dollar that opens no delimiter opens none in the fold either.
      have nothing := dollarDelimiter?_of_kind_ne noDollar
      have still : dollarDelimiter? ('$' :: Word.fold rest) = none := by
        have same := dollarDelimiter?_fold ('$' :: rest)
        rwa [nothing] at same
      have lone : First ('$' :: Word.fold rest) _ := .dollarQuotedString
      rw [dollarQuotedString_of_none still] at lone
      rw [dollarQuotedString_of_none nothing]
      exact lone
  | @quotedIdentifier rest =>
      have same := quoted_fold doubleQuote (by decide) (doubleQuote :: rest)
      rw [Lexeme.fold, Lexeme.quotedIdentifier, ← same]
      exact .quotedIdentifier
  | @word c rest letter =>
      rw [← word_fold]
      exact .word (by rwa [Word.isIdentifierStart_toUpper])
  | @punctuation c rest kind mark =>
      exact .punctuation (by rwa [punctuation?_toUpper])
  | @operator c rest symbol code found =>
      rw [← Word.isOperatorChar_toUpper, ← longestOperator?_fold] at found
      rw [← isSymbol_toUpper] at symbol
      rw [← startsComment_fold] at code
      rw [← operator_fold]
      exact .operator symbol code found
  | @unknown c rest symbol code missing =>
      rw [← Word.isOperatorChar_toUpper, ← longestOperator?_fold] at missing
      rw [← isSymbol_toUpper] at symbol
      rw [← startsComment_fold] at code
      exact .unknown symbol code missing

/-- A dollar-quoted string begins with its delimiter. -/
theorem First.exists_delimiter
    {text : Text}
    {piece : Lexeme}
    (first : First text piece)
    (isDollar : piece.kind = .dollarQuotedString) :
    ∃ rest delimiter, text = '$' :: rest ∧ dollarDelimiter? text = some delimiter ∧
      piece.text = delimiter ++ Text.throughFirst delimiter (text.drop delimiter.length) := by
  cases first with
  | @dollarQuotedString rest =>
      cases found : dollarDelimiter? ('$' :: rest) with
      | none => simp [Lexeme.dollarQuotedString, found] at isDollar
      | some delimiter =>
          refine ⟨rest, delimiter, rfl, rfl, ?_⟩
          rw [Lexeme.dollarQuotedString, found]
  | @word c rest letter =>
      rcases kind_word (c :: rest) with kind | kind <;> simp [kind] at isDollar
  | punctuation mark => grind [punctuation?]
  | _ => contradiction

/-- The fold of a dollar-quoted string is one too, though it may reach less far. -/
theorem First.kind_next_fold
    {text : Text}
    {piece : Lexeme}
    (first : First text piece)
    (isDollar : piece.kind = .dollarQuotedString) :
    (next (Word.fold text)).kind = .dollarQuotedString := by
  obtain ⟨rest, delimiter, rfl, found, _⟩ := first.exists_delimiter isDollar
  have folded := dollarDelimiter?_fold ('$' :: rest)
  rw [found] at folded
  have isFirst : First ('$' :: Word.fold rest) _ := .dollarQuotedString
  change (next ('$' :: Word.fold rest)).kind = .dollarQuotedString
  change dollarDelimiter? ('$' :: Word.fold rest) = some (Word.fold delimiter) at folded
  rw [isFirst.next_eq, Lexeme.dollarQuotedString, folded]

/-- A dollar-quoted string stays the first lexeme whatever follows it, if something follows it
at all. -/
theorem First.replace_of_dollar
    {piece : Lexeme}
    {after other : Text}
    (first : First (piece.text ++ after) piece)
    (isDollar : piece.kind = .dollarQuotedString)
    (ends : after = [] → other = []) :
    First (piece.text ++ other) piece := by
  obtain ⟨rest, delimiter, split, found, body⟩ := first.exists_delimiter isDollar
  obtain ⟨isDelimiter, behind, whole⟩ := (dollarDelimiter?_eq_some_iff _ _).mp found
  rw [← whole, List.drop_left] at body
  rcases Text.throughFirst_stops delimiter behind with unclosed | ⟨content, rest, stop⟩
  case inl =>
    -- An open string reaches to the end of the text.
    have nothing : after = [] := by
      rw [unclosed, whole] at body
      exact List.self_eq_append_right.mp body
    rw [ends nothing, ← nothing]
    exact first
  case inr =>
    rw [stop.read_eq] at body
    have closed := stop.read_append other fun _ _ => rfl
    obtain ⟨opener, tail, rfl⟩ := List.exists_cons_of_ne_nil isDelimiter.ne_nil
    obtain ⟨rfl, _⟩ := List.cons.inj (whole.trans split)
    have still : dollarDelimiter? ('$' :: tail ++ (content ++ other)) = some ('$' :: tail) :=
      (dollarDelimiter?_eq_some_iff _ _).mpr ⟨isDelimiter, List.prefix_append _ _⟩
    have same : Lexeme.dollarQuotedString ('$' :: tail ++ (content ++ other)) = piece := by
      rw [Lexeme.dollarQuotedString, still]
      dsimp only
      rw [List.drop_left, closed, ← body, ← isDollar]
    have isFirst : First ('$' :: (tail ++ (content ++ other))) _ := .dollarQuotedString
    rw [← List.cons_append, same] at isFirst
    rwa [body, List.append_assoc]

end Lexeme
end SqlLexer
