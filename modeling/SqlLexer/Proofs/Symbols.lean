import SqlLexer.Proofs.Cursor.Remaining
import SqlLexer.Proofs.Lexeme.Longest
import SqlLexer.Proofs.Lexeme.Opener
import SqlLexer.Proofs.Surroundings

/-!
# Operators and unknown characters

An operator of the table may be read where it has no comment opener inside and makes none with the
character behind it.  A cursor reads the longest such operator, or else one character.  The tokens
of a source keep to the same rule: an operator is a dollar, the longest operator that may be read,
or one operator character, and the characters that nothing else claims are unknown.
-/

namespace SqlLexer
namespace Lexeme

/-! ## Operators that may be read -/

/-- The two marks that open a comment. -/
def commentOpeners : List Text :=
  [lineOpener, blockOpener]

/-- An operator of the table at the head of a text that runs into no comment. -/
structure IsAllowed (text operator : Text) : Prop where
  listed : operator ∈ operators
  initial : operator <+: text
  /-- No opener lies inside. -/
  closed : ∀ opener ∈ commentOpeners, ¬ opener <:+: operator
  /-- No opener is made of the end of the operator and the character behind it. -/
  apart : ∀ opener ∈ commentOpeners, ∀ c, operator ++ [c] <+: text → ¬ opener <:+ operator ++ [c]

theorem hasCommentOpener_iff (text : Text) :
    hasCommentOpener text ↔ ∃ opener ∈ commentOpeners, opener <:+: text := by
  induction text with
  | nil => simp [commentOpeners, lineOpener, blockOpener]
  | cons c rest inductionHypothesis =>
      simp only [hasCommentOpener, Bool.or_eq_true, inductionHypothesis, List.isPrefixOf_iff_prefix,
        List.infix_cons_iff, commentOpeners, List.mem_cons, List.not_mem_nil, or_false,
        exists_eq_or_imp, exists_eq_left]
      exact or_or_or_comm

theorem hasCommentOpener_eq_false_iff (text : Text) :
    hasCommentOpener text = false ↔ ∀ opener ∈ commentOpeners, ¬ opener <:+: text := by
  rw [Bool.eq_false_iff, Ne, hasCommentOpener_iff]
  simp only [not_exists, not_and]

/-- The table is searched for exactly the operators that may be read. -/
theorem isAllowed_iff (text operator : Text) :
    IsAllowed text operator ↔ Admitted text operator := by
  rw [Admitted, admits, Bool.and_eq_true, Bool.not_eq_true', List.isPrefixOf_iff_prefix]
  constructor
  · rintro ⟨listed, ⟨after, rfl⟩, closed, apart⟩
    refine ⟨listed, List.prefix_append operator after, ?_⟩
    rw [List.take_length_add_append, hasCommentOpener_eq_false_iff]
    cases after with
    | nil => simpa using closed
    | cons c rest =>
        intro opener isOpener within
        rcases List.infix_concat_iff.mp within with across | inside
        · exact apart opener isOpener c (by simp) across
        · exact closed opener isOpener inside
  · rintro ⟨listed, ⟨after, rfl⟩, free⟩
    rw [List.take_length_add_append, hasCommentOpener_eq_false_iff] at free
    refine ⟨listed, List.prefix_append operator after, ?_, ?_⟩
    · intro opener isOpener inside
      exact free opener isOpener (inside.trans (List.prefix_append _ _).isInfix)
    · intro opener isOpener c here across
      obtain ⟨rest, rfl⟩ := (List.prefix_append_right_inj operator).mp here
      exact free opener isOpener across.isInfix

variable {text : Text}

/-- The operator that is found is the longest one allowed at the head of the text. -/
theorem longestOperator?_eq_some_iff_isAllowed (text operator : Text) :
    longestOperator? text = some operator ↔ IsLongest (IsAllowed text) text operator := by
  have sameLanguage : IsAllowed text = Admitted text :=
    funext fun candidate => propext (isAllowed_iff text candidate)
  rw [longestOperator?_eq_some_iff, sameLanguage]

theorem longestOperator?_eq_none_iff_isAllowed (text : Text) :
    longestOperator? text = none ↔ ∀ operator, ¬IsAllowed text operator := by
  simp only [longestOperator?_eq_none_iff, isAllowed_iff]

/-- What is read as an operator is the longest one that may be read, or one character where there
is none. -/
theorem operator_cases (text : Text) :
    (∃ found, IsLongest (IsAllowed text) text found ∧ operator text = ⟨.operator, found⟩) ∨
      (∀ candidate, ¬IsAllowed text candidate) ∧ operator text = ⟨.operator, text.take 1⟩ := by
  cases search : longestOperator? text with
  | none =>
      refine .inr ⟨(longestOperator?_eq_none_iff_isAllowed text).mp search, ?_⟩
      rw [operator, search, Option.getD_none]
  | some found =>
      refine .inl ⟨found, (longestOperator?_eq_some_iff_isAllowed text found).mp search, ?_⟩
      rw [operator, search, Option.getD_some]

/-! ## Symbols as first lexemes -/

/-- Characters of none of the classes that begin lexemes. -/
structure IsForeign (c : Char) : Prop where
  notWhitespace : isWhitespace c = false
  notDigit : isDigit c = false
  notLetter : isIdentifierStart c = false
  notPunctuation : isPunctuation c = false
  notSingleQuote : c ≠ singleQuote
  notDoubleQuote : c ≠ doubleQuote
  notDollar : c ≠ '$'
  notOperator : isOperatorChar c = false

theorem punctuation?_eq_none_iff (c : Char) : punctuation? c = none ↔ isPunctuation c = false := by
  constructor
  · intro none
    rw [Bool.eq_false_iff]
    intro mark
    have member := List.contains_iff_mem.mp mark
    simp only [List.mem_cons, List.not_mem_nil, or_false] at member
    rcases member with rfl | rfl | rfl | rfl | rfl | rfl | rfl <;> contradiction
  · intro outside
    rw [Option.eq_none_iff_forall_ne_some]
    intro kind mark
    rw [punctuation?_of_eq_some mark] at outside
    contradiction

theorem isForeign_iff (c : Char) : IsForeign c ↔ isSymbol c ∧ isOperatorChar c = false := by
  simp only [isSymbol, Bool.and_eq_true, Bool.not_eq_true', Option.isNone_iff_eq_none,
    punctuation?_eq_none_iff, decide_eq_true_eq, and_assoc]
  constructor
  · rintro ⟨space, digit, letter, mark, single, double, dollar, operator⟩
    exact ⟨space, digit, letter, mark, single, double, dollar, operator⟩
  · rintro ⟨space, digit, letter, mark, single, double, dollar, operator⟩
    exact ⟨space, digit, letter, mark, single, double, dollar, operator⟩

/-- An operator that comes first is a dollar, the longest operator that may be read, or one operator
character. -/
theorem First.operator_cases
    {lexeme : Lexeme}
    (first : First text lexeme)
    (isOperator : lexeme.kind = .operator) :
    lexeme.text = ['$'] ∨
      IsLongest (IsAllowed text) text lexeme.text ∨
      ∃ c, lexeme.text = [c] ∧ isOperatorChar c ∧ ∀ operator, ¬IsAllowed text operator := by
  cases first with
  | @dollarQuotedString rest =>
      have nothing : dollarDelimiter? ('$' :: rest) = none :=
        dollarDelimiter?_of_kind_ne (by simp [isOperator])
      rw [dollarQuotedString_of_none nothing]
      exact .inl rfl
  | @word c rest letter =>
      rcases kind_word (c :: rest) with kind | kind <;> simp [kind] at isOperator
  | punctuation mark => grind [punctuation?]
  | @operator c rest symbol code found =>
      rcases Lexeme.operator_cases (c :: rest) with ⟨longest, isLongest, read⟩ | ⟨none, read⟩
      · rw [read]
        exact .inr (.inl isLongest)
      · rw [read]
        rw [(longestOperator?_eq_none_iff_isAllowed _).mpr none] at found
        exact .inr (.inr ⟨c, rfl, by simpa using found, none⟩)
  | _ => contradiction

/-- The unknown first lexemes are the foreign characters at which no operator may be read. -/
theorem First.isUnknown_iff
    {lexeme : Lexeme}
    (first : First text lexeme) :
    lexeme.kind = .unknown ↔
      ∃ c, lexeme.text = [c] ∧ IsForeign c ∧ ∀ operator, ¬IsAllowed text operator := by
  constructor
  · intro isUnknown
    cases first with
    | @dollarQuotedString rest =>
        rcases kind_dollarQuotedString ('$' :: rest) with kind | kind <;> simp [kind] at isUnknown
    | @word c rest letter =>
        rcases kind_word (c :: rest) with kind | kind <;> simp [kind] at isUnknown
    | punctuation mark => grind [punctuation?]
    | @unknown c rest symbol code missing =>
        rw [Bool.or_eq_false_iff, Option.isSome_eq_false_iff, Option.isNone_iff_eq_none,
          longestOperator?_eq_none_iff_isAllowed] at missing
        exact ⟨c, rfl, (isForeign_iff c).mpr ⟨symbol, missing.1⟩, missing.2⟩
    | _ => contradiction
  · rintro ⟨c, isText, isForeign, none⟩
    obtain ⟨rest, rfl⟩ := isText ▸ first.text_initial
    have notMinus : c ≠ '-' := by
      rintro rfl
      exact absurd isForeign.notOperator (by decide)
    have notSlash : c ≠ '/' := by
      rintro rfl
      exact absurd isForeign.notOperator (by decide)
    have missing : (isOperatorChar c || (longestOperator? (c :: rest)).isSome) = false := by
      rw [isForeign.notOperator, (longestOperator?_eq_none_iff_isAllowed (c :: rest)).mpr none]
      rfl
    have unknown := First.unknown ((isForeign_iff c).mp isForeign).1
      (startsComment_of_ne notMinus notSlash rest) missing
    rw [← first.next_eq]
    exact congrArg Lexeme.kind unknown.next_eq

end Lexeme

/-! ## Cursors and tokens -/

open Lexeme (First IsAllowed IsForeign)

/-- How a cursor reads an operator. -/
structure Cursor.ReadsOperator (cursor : Cursor) : Prop where
  /-- Where operators may be read, the longest of them is. -/
  longest : (∃ operator, IsAllowed cursor.remaining operator) →
    ∃ operator rest, IsLongest (IsAllowed cursor.remaining) cursor.remaining operator ∧
      cursor.Reads .operator ⟨.operator, operator⟩ rest
  /-- Where none may be, one character is read, or nothing at the end. -/
  single : (∀ operator, ¬IsAllowed cursor.remaining operator) →
    cursor.Reads .operator ⟨.operator, cursor.remaining.take 1⟩ (cursor.remaining.drop 1)

/-- Every cursor reads the longest allowed operator, or one character where there is none. -/
theorem Cursor.readsOperator (cursor : Cursor) : cursor.ReadsOperator := by
  rcases Lexeme.operator_cases cursor.remaining with ⟨operator, isLongest, read⟩ | ⟨none, read⟩
  · obtain ⟨rest, split⟩ := isLongest.initial
    refine ⟨fun _ => ⟨operator, rest, isLongest, reads_of_eq split.symm read⟩, fun none => ?_⟩
    exact absurd isLongest.belongs (none operator)
  · refine ⟨fun ⟨operator, isAllowed⟩ => absurd isAllowed (none operator), fun _ => ?_⟩
    exact reads_of_eq (List.take_append_drop 1 _).symm read

/-- What lies in a source from a token on. -/
def Token.onward (token : Token) (source : Text) : Text :=
  source.dropBytes token.span.start

/-- A list of tokens with the operators and the unknown characters of a source. -/
structure SortsSymbols (source : Text) (tokens : List Token) : Prop where
  /-- An operator is a dollar, the longest operator of the table that may be read there, or an
  operator character at which none may be read. -/
  operator : ∀ token ∈ tokens, token.kind = .operator →
    token.text = ['$'] ∨
      IsLongest (IsAllowed (token.onward source)) (token.onward source) token.text ∨
      ∃ c, token.text = [c] ∧ isOperatorChar c ∧
        ∀ operator, ¬IsAllowed (token.onward source) operator
  /-- The unknown tokens are the foreign characters at which no operator may be read. -/
  unknown : ∀ token ∈ tokens, token.kind = .unknown ↔
    ∃ c, token.text = [c] ∧ IsForeign c ∧ ∀ operator, ¬IsAllowed (token.onward source) operator

theorem Token.IsBetween.onward_eq
    {token : Token}
    {before after : Text}
    (between : token.IsBetween before after) :
    token.onward (before ++ (token.text ++ after)) = token.text ++ after := by
  rw [onward, between.start, Text.dropBytes_append]

/-- Every cursor reads the longest operator that may be read, and the tokens of an accepted source
are operators or unknown by the same rule. -/
theorem readsOperator_and_sortsSymbols
    (cursor : Cursor)
    {source : Text}
    {tokens : List Token}
    (accepted : tokenize source = .ok tokens) :
    cursor.ReadsOperator ∧ SortsSymbols source tokens := by
  obtain ⟨_, rfl⟩ := (tokenize_eq_ok_iff _ _).mp accepted
  refine ⟨cursor.readsOperator, ?_⟩
  constructor
  case operator =>
    intro token member isOperator
    obtain ⟨before, after, rfl, between⟩ := exists_isBetween_of_mem_tokensOf member
    rw [between.onward_eq]
    rcases between.first with first | ⟨isMark, _⟩
    · exact first.operator_cases isOperator
    · have isEnd : token.kind = .endOfFile := congrArg Lexeme.kind isMark
      rw [isEnd] at isOperator
      contradiction
  case unknown =>
    intro token member
    obtain ⟨before, after, rfl, between⟩ := exists_isBetween_of_mem_tokensOf member
    rw [between.onward_eq]
    rcases between.first with first | ⟨isMark, _⟩
    · exact first.isUnknown_iff
    · have isEnd : token.kind = .endOfFile := congrArg Lexeme.kind isMark
      have isEmpty : token.text = [] := congrArg Lexeme.text isMark
      simp [isEnd, isEmpty]

/-- Operators cut short by comments behind them, characters that are operators only together with
others, a dollar and a letter of no class. -/
theorem readsOperator_and_sortsSymbols_cutShort :
    ∃ tokens : List Token,
      tokenize "||/*x*/ ?|?:=:$1 -|-- @\n@>\x00/@@@@".toList = .ok tokens ∧
      (Cursor.start "-|-- c".toList).ReadsOperator ∧
      SortsSymbols "||/*x*/ ?|?:=:$1 -|-- @\n@>\x00/@@@@".toList tokens := by
  have accepted : tokenize "||/*x*/ ?|?:=:$1 -|-- @\n@>\x00/@@@@".toList =
      .ok (tokensOf "||/*x*/ ?|?:=:$1 -|-- @\n@>\x00/@@@@".toList) := rfl
  exact ⟨_, accepted, readsOperator_and_sortsSymbols (Cursor.start "-|-- c".toList) accepted⟩

end SqlLexer
