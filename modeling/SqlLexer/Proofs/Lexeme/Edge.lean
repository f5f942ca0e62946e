import SqlLexer.Proofs.Cursor.DollarQuoted
import SqlLexer.Proofs.Cursor.Quoted
import SqlLexer.Proofs.Lexeme.Nesting
import SqlLexer.Proofs.Lexeme.Sequence

/-!
# The edges of lexemes

The first character of a lexeme is one with which its kind begins, and the character behind it is
none with which its kind goes on.  A lexeme that lacks its closing mark has nothing behind it.
-/

namespace SqlLexer
namespace Kind

/-- The characters with which lexemes of a kind begin; punctuation, comments and symbols are left
open. -/
def begins : Kind → Char → Bool
  | .whitespace, c => isWhitespace c
  | .keyword, c | .identifier, c => isIdentifierStart c
  | .numericLiteral, c => isDigit c
  | .stringLiteral, c => c = singleQuote
  | .quotedIdentifier, c => c = doubleQuote
  | .dollarQuotedString, c => c = '$'
  | _, _ => true

/-- The characters with which lexemes of a kind go on, as far as one character tells. -/
def goesOn : Kind → Char → Bool
  | .whitespace, c => isWhitespace c
  | .keyword, c | .identifier, c => isIdentifierPart c
  | .lineComment, c => c ≠ '\n'
  | .stringLiteral, c => c = singleQuote
  | .quotedIdentifier, c => c = doubleQuote
  | _, _ => false

end Kind

namespace Lexeme

/-- The first character of a lexeme is one that its kind begins with. -/
theorem First.begins
    {c : Char}
    {rest : Text}
    {piece : Lexeme}
    (first : First (c :: rest) piece) :
    piece.kind.begins c := by
  cases first with
  | whitespace space => exact space
  | number digit => exact digit
  | dollarQuotedString =>
      rcases kind_dollarQuotedString ('$' :: rest) with kind | kind <;> rw [kind] <;> rfl
  | word letter =>
      rcases kind_word (c :: rest) with kind | kind <;> rw [kind] <;> exact letter
  | punctuation mark => grind [punctuation?, Kind.begins]
  | _ => rfl

/-- The character behind a lexeme is none that its kind goes on with. -/
theorem First.goesOn_eq_false
    {piece : Lexeme}
    {after : Text}
    (first : First (piece.text ++ after) piece) :
    ∀ c ∈ after.head?, piece.kind.goesOn c = false := by
  generalize split : piece.text ++ after = text at first
  cases first with
  | whitespace space => exact (Text.takeWhile_stops isWhitespace).goesOn_eq_false split
  | lineComment opener => exact (Text.takeWhile_stops _).goesOn_eq_false split
  | stringLiteral => exact (quoted_stops singleQuote).goesOn_eq_false split
  | quotedIdentifier => exact (quoted_stops doubleQuote).goesOn_eq_false split
  | @word c rest letter =>
      have stops := (Text.takeWhile_stops isIdentifierPart).goesOn_eq_false split
      rcases kind_word (c :: rest) with kind | kind <;> rw [kind] <;> exact stops
  | @dollarQuotedString rest =>
      intro c _
      rcases kind_dollarQuotedString ('$' :: rest) with kind | kind <;> rw [kind] <;> rfl
  | punctuation mark =>
      intro c _
      grind [punctuation?, Kind.goesOn]
  | _ => exact fun _ _ => rfl

/-! ## Lexemes without an end -/

/-- Lexemes that lack the mark that closes them. -/
inductive IsUnclosed : Lexeme → Prop
  | quoted {form : Form} {kind : Kind} {quote : Char} {text : Text}
      (quoting : Quoting form kind quote)
      (noQuote : ∀ content, text ≠ quote :: (doubled quote content ++ [quote])) :
      IsUnclosed ⟨kind, text⟩
  | blockComment {text : Text}
      (noComment : ¬IsComment text) :
      IsUnclosed ⟨.blockComment, text⟩
  | dollarQuotedString {text : Text}
      (noDelimiter : ∀ tag body, Tag tag → text ≠ tagged tag ++ (body ++ tagged tag)) :
      IsUnclosed ⟨.dollarQuotedString, text⟩

/-- A text has only one first lexeme. -/
theorem First.unique
    {text : Text}
    {piece other : Lexeme}
    (first : First text piece)
    (isOther : First text other) :
    piece = other :=
  first.next_eq.symm.trans isOther.next_eq

/-- A quoted lexeme that comes first is read from its quote on. -/
theorem First.exists_quoted
    {form : Form}
    {kind : Kind}
    {quote : Char}
    {whole text : Text}
    (first : First whole ⟨kind, text⟩)
    (quoting : Quoting form kind quote) :
    ∃ inside, whole = quote :: inside ∧ text = Lexeme.quoted quote (quote :: inside) := by
  obtain ⟨c, inside, rfl⟩ := first.exists_eq_cons
  have begins := first.begins
  cases quoting with
  | stringLiteral =>
      obtain rfl : c = singleQuote := of_decide_eq_true begins
      exact ⟨inside, rfl, congrArg Lexeme.text (first.unique .stringLiteral)⟩
  | quotedIdentifier =>
      obtain rfl : c = doubleQuote := of_decide_eq_true begins
      exact ⟨inside, rfl, congrArg Lexeme.text (first.unique .quotedIdentifier)⟩

/-- A quoted lexeme is closed, or nothing follows it. -/
theorem First.quoted_cases
    {form : Form}
    {kind : Kind}
    {quote : Char}
    {text after : Text}
    (first : First (text ++ after) ⟨kind, text⟩)
    (quoting : Quoting form kind quote) :
    (∃ content, text = quote :: (doubled quote content ++ [quote])) ∨ after = [] := by
  obtain ⟨inside, split, read⟩ := first.exists_quoted quoting
  rcases isQuoted_or_quoted_eq quote inside with ⟨content, rest, isQuoted⟩ | whole
  · exact .inl ⟨content, read.trans isQuoted.quoted_eq⟩
  · rw [whole, ← split] at read
    exact .inr (List.append_right_eq_self.mp read.symm)

/-- A block comment that comes first is read from its opener on. -/
theorem First.blockComment_opener
    {whole : Text}
    {piece : Lexeme}
    (first : First whole piece)
    (kind : piece.kind = .blockComment) :
    blockOpener <+: whole ∧ piece = Lexeme.blockComment whole := by
  cases first with
  | blockComment opener => exact ⟨List.isPrefixOf_iff_prefix.mp opener, rfl⟩
  | @word c rest letter => rcases kind_word (c :: rest) with other | other <;> simp [other] at kind
  | @dollarQuotedString rest =>
      rcases kind_dollarQuotedString ('$' :: rest) with other | other <;> simp [other] at kind
  | punctuation mark => grind [punctuation?]
  | _ => cases kind

/-- A block comment is closed, or nothing follows it. -/
theorem First.blockComment_cases
    {text after : Text}
    (first : First (text ++ after) ⟨.blockComment, text⟩) :
    IsComment text ∨ after = [] := by
  obtain ⟨opens, isComment⟩ := first.blockComment_opener rfl
  rcases exists_isComment_or_blockComment_eq opens with ⟨comment, rest, closed, split⟩ | whole
  · rw [split, closed.blockComment_append] at isComment
    obtain rfl : text = comment := congrArg Lexeme.text isComment
    exact .inl closed
  · rw [whole] at isComment
    exact .inr (List.append_right_eq_self.mp (congrArg Lexeme.text isComment).symm)

/-- A dollar-quoted string that comes first is read from its delimiter on. -/
theorem First.exists_tagged
    {whole text : Text}
    (first : First whole ⟨.dollarQuotedString, text⟩) :
    ∃ tag inside, Tag tag ∧ whole = tagged tag ++ inside ∧
      text = tagged tag ++ Text.throughFirst (tagged tag) inside := by
  obtain ⟨c, rest, rfl⟩ := first.exists_eq_cons
  obtain rfl : c = '$' := of_decide_eq_true first.begins
  have read := first.unique .dollarQuotedString
  by_contra none
  have noTag : ∀ tag, Tag tag → ¬tagged tag <+: '$' :: rest := by
    rintro tag isTag ⟨inside, split⟩
    rw [← split, isTag.dollarQuotedString_eq] at read
    exact none ⟨tag, inside, isTag, split.symm, congrArg Lexeme.text read⟩
  rw [dollarQuotedString_of_not_tagged noTag] at read
  nomatch congrArg Lexeme.kind read

/-- A dollar-quoted string is closed by its delimiter, or nothing follows it. -/
theorem First.dollarQuotedString_cases
    {text after : Text}
    (first : First (text ++ after) ⟨.dollarQuotedString, text⟩) :
    (∃ tag body, Tag tag ∧ text = tagged tag ++ (body ++ tagged tag)) ∨ after = [] := by
  obtain ⟨tag, inside, isTag, split, read⟩ := first.exists_tagged
  rcases Text.isCutAtFirst_or_throughFirst_eq (tagged tag) inside with
    ⟨body, rest, cut⟩ | ⟨_, whole⟩
  · rw [cut.throughFirst_eq] at read
    exact .inl ⟨tag, body, isTag, read⟩
  · rw [whole, ← split] at read
    exact .inr (List.append_right_eq_self.mp read.symm)

/-- Nothing lies behind a lexeme that lacks its closing mark. -/
theorem First.eq_nil_of_isUnclosed
    {piece : Lexeme}
    {after : Text}
    (first : First (piece.text ++ after) piece)
    (unclosed : piece.IsUnclosed) :
    after = [] := by
  cases unclosed with
  | quoted quoting noQuote =>
      refine (first.quoted_cases quoting).resolve_left ?_
      rintro ⟨content, isText⟩
      exact noQuote content isText
  | blockComment noComment => exact first.blockComment_cases.resolve_left noComment
  | dollarQuotedString noDelimiter =>
      refine first.dollarQuotedString_cases.resolve_left ?_
      rintro ⟨tag, body, isTag, isText⟩
      exact noDelimiter tag body isTag isText

end Lexeme
end SqlLexer
