import SqlLexer.Lexeme.Next

/-!
# How a text begins

The first lexeme of a text is described by one rule for each way a text can begin.  The rules do
not overlap, so a lexeme that follows one of them is the first lexeme of the text.
-/

namespace SqlLexer

theorem isIdentifierStart_of_toNat_lt
    {c : Char}
    (small : c.toNat < 0x41) :
    isIdentifierStart c = false := by
  have notUnderscore : c ≠ '_' := by
    rintro rfl
    exact absurd small (by decide)
  have notLetter : Unicode.alphabetic.contains c = false :=
    if_pos small
  simp [isIdentifierStart, notUnderscore, notLetter]

/-- A character as one of four, in the form in which a case split uses it. -/
theorem isWhitespace_iff (c : Char) :
    isWhitespace c ↔ c = ' ' ∨ c = '\t' ∨ c = '\r' ∨ c = '\n' := by
  simp [isWhitespace, or_assoc]

theorem isDigit_iff_toNat (c : Char) : isDigit c ↔ 0x30 ≤ c.toNat ∧ c.toNat ≤ 0x39 := by
  simp [isDigit, Char.le_def, UInt32.le_iff_toNat_le]

namespace Lexeme

/-- Whether a comment opens at the head of a text. -/
def startsComment (text : Text) : Bool :=
  lineOpener.isPrefixOf text || blockOpener.isPrefixOf text

/-- Characters that belong to no other rule than those of operators and unknown characters. -/
def isSymbol (c : Char) : Bool :=
  !isWhitespace c && !isDigit c && !isIdentifierStart c && (punctuation? c).isNone &&
    c ≠ singleQuote && c ≠ doubleQuote && c ≠ '$'

/-- The first lexeme of a text, by how the text begins. -/
inductive First : Text → Lexeme → Prop
  | whitespace {c : Char} {rest : Text}
      (space : isWhitespace c) :
      First (c :: rest) ⟨.whitespace, (c :: rest).takeWhile isWhitespace⟩
  | lineComment {c : Char} {rest : Text}
      (opener : lineOpener.isPrefixOf (c :: rest)) :
      First (c :: rest) (Lexeme.lineComment (c :: rest))
  | blockComment {c : Char} {rest : Text}
      (opener : blockOpener.isPrefixOf (c :: rest)) :
      First (c :: rest) (Lexeme.blockComment (c :: rest))
  | number {c : Char} {rest : Text}
      (digit : isDigit c) :
      First (c :: rest) (Lexeme.number (c :: rest))
  | stringLiteral {rest : Text} :
      First (singleQuote :: rest) (Lexeme.stringLiteral (singleQuote :: rest))
  | dollarQuotedString {rest : Text} :
      First ('$' :: rest) (Lexeme.dollarQuotedString ('$' :: rest))
  | quotedIdentifier {rest : Text} :
      First (doubleQuote :: rest) (Lexeme.quotedIdentifier (doubleQuote :: rest))
  | word {c : Char} {rest : Text}
      (letter : isIdentifierStart c) :
      First (c :: rest) (Lexeme.word (c :: rest))
  | punctuation {c : Char} {rest : Text} {kind : Kind}
      (mark : punctuation? c = some kind) :
      First (c :: rest) ⟨kind, [c]⟩
  | operator {c : Char} {rest : Text}
      (symbol : isSymbol c)
      (code : startsComment (c :: rest) = false)
      (found : isOperatorChar c || (longestOperator? (c :: rest)).isSome) :
      First (c :: rest) (Lexeme.operator (c :: rest))
  | unknown {c : Char} {rest : Text}
      (symbol : isSymbol c)
      (code : startsComment (c :: rest) = false)
      (missing : (isOperatorChar c || (longestOperator? (c :: rest)).isSome) = false) :
      First (c :: rest) ⟨.unknown, [c]⟩

/-- Every text that is not empty begins by one of the rules. -/
theorem first_next (c : Char) (rest : Text) : First (c :: rest) (next (c :: rest)) := by
  unfold next
  dsimp only
  split
  · exact .whitespace ‹_›
  split
  · exact .lineComment ‹_›
  split
  · exact .blockComment ‹_›
  split
  · exact .number ‹_›
  split
  · subst_vars
    exact .stringLiteral
  split
  · subst_vars
    exact .dollarQuotedString
  split
  · subst_vars
    exact .quotedIdentifier
  split
  · exact .word ‹_›
  split
  · exact .punctuation ‹_›
  have symbol : isSymbol c := by
    simp_all [isSymbol]
  have code : startsComment (c :: rest) = false := by
    rw [startsComment, Bool.or_eq_false_iff]
    constructor <;> rw [Bool.eq_false_iff] <;> assumption
  split
  · exact .operator symbol code ‹_›
  · exact .unknown symbol code (Bool.eq_false_iff.mpr ‹_›)

theorem kind_word (text : Text) : (word text).kind = .keyword ∨ (word text).kind = .identifier := by
  unfold word
  dsimp only
  split
  · exact .inl rfl
  · exact .inr rfl

/-- A dollar begins a string or is an operator. -/
theorem kind_dollarQuotedString (text : Text) :
    (dollarQuotedString text).kind = .dollarQuotedString ∨
      (dollarQuotedString text).kind = .operator := by
  unfold dollarQuotedString
  split
  · exact .inl rfl
  · exact .inr rfl

theorem lineOpener_isPrefixOf_iff (c : Char) (rest : Text) :
    lineOpener.isPrefixOf (c :: rest) ↔ c = '-' ∧ rest.head? = some '-' := by
  cases rest <;> grind [lineOpener, List.isPrefixOf]

theorem blockOpener_isPrefixOf_iff (c : Char) (rest : Text) :
    blockOpener.isPrefixOf (c :: rest) ↔ c = '/' ∧ rest.head? = some '*' := by
  cases rest <;> grind [blockOpener, List.isPrefixOf]

/-- Comments open with a minus or a slash. -/
theorem startsComment_of_ne
    {c : Char}
    (notMinus : c ≠ '-')
    (notSlash : c ≠ '/')
    (rest : Text) :
    startsComment (c :: rest) = false := by
  rw [startsComment, Bool.or_eq_false_iff, Bool.eq_false_iff, Bool.eq_false_iff]
  rw [Ne, lineOpener_isPrefixOf_iff, Ne, blockOpener_isPrefixOf_iff]
  exact ⟨fun opens => notMinus opens.1, fun opens => notSlash opens.1⟩

theorem startsComment_eq_false_iff (text : Text) :
    startsComment text = false ↔
      lineOpener.isPrefixOf text = false ∧ blockOpener.isPrefixOf text = false := by
  rw [startsComment, Bool.or_eq_false_iff]

/-- A character is not another one that lies outside its class. -/
theorem ne_of_class
    {condition : Char → Bool}
    {c : Char}
    (inside : condition c)
    (d : Char)
    (outside : condition d = false) :
    c ≠ d := by
  rintro rfl
  simp [inside] at outside

/-- The characters with a kind of their own are the punctuation marks. -/
theorem punctuation?_of_eq_some
    {c : Char}
    {kind : Kind}
    (mark : punctuation? c = some kind) :
    isPunctuation c := by
  grind [punctuation?, isPunctuation]

/-- A mark of punctuation begins nothing else. -/
theorem outside_of_isPunctuation
    {c : Char}
    (mark : isPunctuation c) :
    isWhitespace c = false ∧ isDigit c = false ∧ isIdentifierStart c = false ∧
      c ≠ singleQuote ∧ c ≠ doubleQuote ∧ c ≠ '$' ∧ c ≠ '-' ∧ c ≠ '/' := by
  have member := List.contains_iff_mem.mp mark
  simp only [List.mem_cons, List.not_mem_nil, or_false] at member
  rcases member with rfl | rfl | rfl | rfl | rfl | rfl | rfl <;> decide

theorem isWhitespace_of_isDigit {c : Char} (digit : isDigit c) : isWhitespace c = false := by
  rw [Bool.eq_false_iff, Ne, isWhitespace_iff]
  rintro (rfl | rfl | rfl | rfl) <;> exact absurd digit (by decide)

theorem isWhitespace_of_isIdentifierStart
    {c : Char}
    (letter : isIdentifierStart c) :
    isWhitespace c = false := by
  rw [Bool.eq_false_iff, Ne, isWhitespace_iff]
  rintro (rfl | rfl | rfl | rfl) <;> exact absurd letter (by decide)

theorem isDigit_of_isIdentifierStart
    {c : Char}
    (letter : isIdentifierStart c) :
    isDigit c = false := by
  rw [Bool.eq_false_iff]
  intro digit
  have small := ((isDigit_iff_toNat c).mp digit).2
  rw [isIdentifierStart_of_toNat_lt (by omega)] at letter
  contradiction

/-- The rules determine the first lexeme. -/
theorem First.next_eq
    {text : Text}
    {lexeme : Lexeme}
    (first : First text lexeme) :
    next text = lexeme := by
  cases first with
  | whitespace space => simp [next, space]
  | @lineComment c rest opener =>
      obtain ⟨rfl, _⟩ := (lineOpener_isPrefixOf_iff c rest).mp opener
      simp only [next, opener, if_true]
      rfl
  | @blockComment c rest opener =>
      obtain ⟨rfl, _⟩ := (blockOpener_isPrefixOf_iff c rest).mp opener
      simp only [next, opener, if_true]
      rfl
  | @number c rest digit =>
      have code := (startsComment_eq_false_iff _).mp <| startsComment_of_ne
        (ne_of_class digit '-' (by decide)) (ne_of_class digit '/' (by decide)) rest
      simp only [next, isWhitespace_of_isDigit digit, code, digit, if_true, if_false,
        Bool.false_eq_true]
  | @stringLiteral rest =>
      have code := (startsComment_eq_false_iff _).mp <|
        startsComment_of_ne (c := singleQuote) (by decide) (by decide) rest
      simp only [next, code, if_true, if_false, Bool.false_eq_true]
      rfl
  | @dollarQuotedString rest =>
      have code := (startsComment_eq_false_iff _).mp <|
        startsComment_of_ne (c := '$') (by decide) (by decide) rest
      simp only [next, code, if_false, Bool.false_eq_true]
      rfl
  | @quotedIdentifier rest =>
      have code := (startsComment_eq_false_iff _).mp <|
        startsComment_of_ne (c := doubleQuote) (by decide) (by decide) rest
      simp only [next, code, if_false, Bool.false_eq_true]
      rfl
  | @word c rest letter =>
      have code := (startsComment_eq_false_iff _).mp <| startsComment_of_ne
        (ne_of_class letter '-' (by decide)) (ne_of_class letter '/' (by decide)) rest
      have notQuote := ne_of_class letter singleQuote (by decide)
      have notDollar := ne_of_class letter '$' (by decide)
      have notDouble := ne_of_class letter doubleQuote (by decide)
      simp only [next, isWhitespace_of_isIdentifierStart letter, code,
        isDigit_of_isIdentifierStart letter, notQuote, notDollar, notDouble, letter, if_true,
        if_false, Bool.false_eq_true]
  | @punctuation c rest kind mark =>
      obtain ⟨notSpace, notDigit, notLetter, notQuote, notDouble, notDollar, notMinus, notSlash⟩ :=
        outside_of_isPunctuation (punctuation?_of_eq_some mark)
      have code := (startsComment_eq_false_iff _).mp (startsComment_of_ne notMinus notSlash rest)
      simp only [next, notSpace, code, notDigit, notQuote, notDollar, notDouble, notLetter, mark,
        if_false, Bool.false_eq_true]
  | operator symbol code found =>
      rw [startsComment_eq_false_iff] at code
      simp only [isSymbol, Bool.and_eq_true, Bool.not_eq_true', Option.isNone_iff_eq_none,
        decide_eq_true_eq] at symbol
      simp only [next, symbol, code, found, if_true, if_false, Bool.false_eq_true]
  | unknown symbol code missing =>
      rw [startsComment_eq_false_iff] at code
      simp only [isSymbol, Bool.and_eq_true, Bool.not_eq_true', Option.isNone_iff_eq_none,
        decide_eq_true_eq] at symbol
      simp only [next, symbol, code, missing, if_false, Bool.false_eq_true]

end Lexeme
end SqlLexer
