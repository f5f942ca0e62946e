import SqlLexer.Proofs.Name.Quoting
import SqlLexer.Proofs.Unicode.LowerLetters

/-!
# Names folded twice

The name of a word without quotes is a word as well, and names itself: folding a name that is
folded already changes nothing.  The one exception are words with a dotted capital I.  Its lower
case ends in a mark that no word contains, and so only the beginning of the name is a word.
-/

namespace SqlLexer

open Declarations
open Lexeme (First significant)
open QualifiedName (partValue?)
open Unicode (lowercase dotAbove)

namespace Lexeme

/-- Words without quotes are the lexemes of two kinds. -/
theorem First.exists_word
    {text : Text}
    {piece : Lexeme}
    (first : First text piece)
    (bare : piece.kind = .identifier ∨ piece.kind = .keyword) :
    ∃ c rest, text = c :: rest ∧ isIdentifierStart c ∧ piece = Lexeme.word text := by
  cases first with
  | @word c rest letter => exact ⟨c, rest, rfl, letter, rfl⟩
  | @dollarQuotedString rest =>
      rcases kind_dollarQuotedString ('$' :: rest) with kind | kind <;> simp [kind] at bare
  | punctuation mark => grind [punctuation?]
  | _ => rcases bare with bare | bare <;> contradiction

theorem isTrivia_word (text : Text) : (word text).kind.isTrivia = false := by
  rcases kind_word text with kind | kind <;> rw [kind] <;> rfl

/-- A symbol is not a dot, and nothing that a reader of names would pass over. -/
theorem significant_lexemes_symbol
    {c : Char}
    {rest : Text}
    (symbol : isSymbol c)
    (code : startsComment (c :: rest) = false) :
    ∃ piece pieces, significant (lexemes (c :: rest)) = piece :: pieces ∧ piece.kind ≠ .dot := by
  have first : ∃ piece, First (c :: rest) piece ∧
      (piece.kind = .operator ∨ piece.kind = .unknown) := by
    cases found : isOperatorChar c || (longestOperator? (c :: rest)).isSome with
    | true => exact ⟨_, .operator symbol code found, .inl rfl⟩
    | false => exact ⟨_, .unknown symbol code found, .inr rfl⟩
  obtain ⟨piece, first, kind⟩ := first
  obtain ⟨after, split⟩ := first.text_initial
  refine ⟨piece, significant (lexemes after), ?_, ?_⟩
  · rw [first.lexemes_eq split, significant_cons_of_not_isTrivia]
    rcases kind with kind | kind <;> rw [kind] <;> rfl
  · rcases kind with kind | kind <;> rw [kind] <;> decide

end Lexeme

/-- A source of one word without quotes is made of characters of words. -/
theorem exists_eq_cons_of_tokenize
    {source : Text}
    {token mark : Token}
    (alone : tokenize source = .ok [token, mark])
    (bare : token.kind = .identifier ∨ token.kind = .keyword)
    (isEnd : mark.kind = .endOfFile) :
    ∃ c rest, source = c :: rest ∧ isIdentifierStart c ∧ ∀ d ∈ source, isIdentifierPart d := by
  obtain ⟨_, tokens⟩ := (tokenize_eq_ok_iff source _).mp alone
  have noMark : token.kind ≠ .endOfFile := by
    rcases bare with kind | kind <;> rw [kind] <;> decide
  have single : lexemes source = [token.lexeme] := by
    rw [← contents_tokensOf, ← tokens]
    simp [Token.contents, noMark, isEnd]
  have spelled := concatText_lexemes source
  have lexed := Lexeme.isLexed_lexemes source
  rw [single] at spelled lexed
  have first := ((Lexeme.isLexed_cons_iff _ _).mp lexed).1
  rw [← Lexeme.concatText_cons, spelled] at first
  obtain ⟨c, rest, isCons, start, isWord⟩ := first.exists_word bare
  refine ⟨c, rest, isCons, start, ?_⟩
  -- The one lexeme is all that a word can take of the source, and spells the whole of it.
  have whole : source.takeWhile isIdentifierPart = source := by
    rw [isWord, Lexeme.concatText_cons, Lexeme.concatText_nil, List.append_nil] at spelled
    exact spelled
  rw [List.takeWhile_eq_self_iff] at whole
  exact whole

namespace QualifiedName

/-- A word that no dot follows is a name without a schema. -/
theorem nameAt?_of_word
    {tokens : List Token}
    {text : Text}
    {pieces : List Lexeme}
    (lexemes : tokens.map Token.lexeme = Lexeme.word text :: pieces)
    (noDot : ∀ piece ∈ pieces.head?, piece.kind ≠ .dot) :
    ∃ rest, nameAt? tokens =
      some (⟨none, lowercase (text.takeWhile isIdentifierPart)⟩, rest) := by
  obtain ⟨token, rest, rfl, isWord, rfl⟩ := List.map_eq_cons_iff.mp lexemes
  have value : partValue? token = some (lowercase (text.takeWhile isIdentifierPart)) := by
    obtain ⟨kind, spelling⟩ := Lexeme.mk.inj isWord
    rw [partValue?, kind, spelling]
    cases Word.isKeyword (text.takeWhile isIdentifierPart) <;> rfl
  have alone : behind? (fun token => token.kind = .dot) rest = none := by
    cases rest with
    | nil => rfl
    | cons next others =>
        have kind : next.kind ≠ .dot := noDot next.lexeme rfl
        simp [behind?, kind]
  exact ⟨rest, by simp [nameAt?, partAt?, value, alone]⟩

/-- The name at the head of a text that begins with a word and goes on, if at all, with a dot
above a letter. -/
theorem ofSource_word
    {c : Char}
    (start : isIdentifierStart c)
    (rest : Text)
    (behind : ∀ d ∈ ((c :: rest).dropWhile isIdentifierPart).head?, d = dotAbove) :
    ofSource (c :: rest) = .ok ⟨none, lowercase ((c :: rest).takeWhile isIdentifierPart)⟩ := by
  have solid : ∃ d ∈ c :: rest, isWhitespace d = false :=
    ⟨c, List.mem_cons_self, Lexeme.isWhitespace_of_isIdentifierStart start⟩
  refine (ofSource_eq_ok_iff _ _).mpr ⟨solid, ?_⟩
  have isWord : First (c :: rest) (Lexeme.word (c :: rest)) := .word start
  have tokens : (Token.visible (tokensOf (c :: rest))).map Token.lexeme =
      Lexeme.word (c :: rest) ::
        significant (lexemes ((c :: rest).dropWhile isIdentifierPart)) := by
    rw [map_lexeme_visible_tokensOf, isWord.lexemes_eq List.takeWhile_append_dropWhile,
      Lexeme.significant_cons_of_not_isTrivia (Lexeme.isTrivia_word _)]
  refine nameAt?_of_word tokens fun piece isHead => ?_
  cases after : (c :: rest).dropWhile isIdentifierPart with
  | nil =>
      rw [after, lexemes_nil] at isHead
      exact absurd isHead (Option.not_mem_none _)
  | cons d others =>
      rw [after] at behind isHead
      obtain rfl := behind d rfl
      obtain ⟨symbol, pieces, split, kind⟩ := Lexeme.significant_lexemes_symbol
        (c := dotAbove) (by decide)
        (Lexeme.startsComment_of_ne (by decide) (by decide) others)
      rw [split] at isHead
      rw [← Option.some.inj isHead]
      exact kind

/-- A source of one word without quotes names the lower case of that word.  The lower case can be
read as a name again, and this is the same name, unless the word has a dotted capital I. -/
theorem ofSource_lowercase
    {source : Text}
    {token mark : Token}
    (alone : tokenize source = .ok [token, mark])
    (bare : token.kind = .identifier ∨ token.kind = .keyword)
    (isEnd : mark.kind = .endOfFile) :
    ofSource source = .ok ⟨none, lowercase source⟩ ∧
      ∃ again, ofSource (lowercase source) = .ok ⟨none, again⟩ ∧
        (again = lowercase source ↔ '\u0130' ∉ source) := by
  obtain ⟨c, rest, rfl, start, parts⟩ := exists_eq_cons_of_tokenize alone bare isEnd
  constructor
  · have whole := List.takeWhile_eq_self_iff.mpr parts
    have nothing := List.dropWhile_eq_nil_iff.mpr parts
    have named := ofSource_word start rest (by simp [nothing])
    rwa [whole] at named
  · obtain ⟨d, tail, lower, lowerStart⟩ := exists_lowercase_eq_cons start rest
    have behind : ∀ e ∈ ((lowercase (c :: rest)).dropWhile isIdentifierPart).head?,
        e = dotAbove := by
      intro e isHead
      have outside := List.head?_dropWhile_not isIdentifierPart (lowercase (c :: rest))
      rw [Option.mem_def.mp isHead] at outside
      exact eq_dotAbove_of_mem_lowercase parts
        ((List.dropWhile_sublist _).mem (List.mem_of_head? isHead)) (by simpa using outside)
    refine ⟨(lowercase (c :: rest)).takeWhile isIdentifierPart, ?_, ?_⟩
    · have isLower : ∀ e ∈ (lowercase (c :: rest)).takeWhile isIdentifierPart,
          Unicode.lowercaseChar e = [e] := fun e member =>
        Unicode.isLower_of_mem_lowercase _ e ((List.takeWhile_sublist _).mem member)
      have named := ofSource_word lowerStart tail (lower ▸ behind)
      rwa [← lower, Unicode.lowercase_of_isLower isLower] at named
    · rw [List.takeWhile_eq_self_iff]
      exact forall_isIdentifierPart_lowercase_iff parts

/-- A word with a final sigma, which keeps its form when the name is folded again. -/
theorem ofSource_lowercase_finalSigma :
    tokenize "_ΟΔΌΣ$7".toList =
        .ok [⟨.identifier, ⟨0, 11⟩, ⟨1, 1⟩, "_ΟΔΌΣ$7".toList⟩, ⟨.endOfFile, ⟨11, 0⟩, ⟨1, 8⟩, []⟩] ∧
      ofSource "_ΟΔΌΣ$7".toList = .ok ⟨none, "_οδός$7".toList⟩ ∧
      ofSource "_οδός$7".toList = .ok ⟨none, "_οδός$7".toList⟩ := by
  have alone : tokenize "_ΟΔΌΣ$7".toList = .ok
      [⟨.identifier, ⟨0, 11⟩, ⟨1, 1⟩, "_ΟΔΌΣ$7".toList⟩, ⟨.endOfFile, ⟨11, 0⟩, ⟨1, 8⟩, []⟩] := by
    decide +kernel
  have folded : lowercase "_ΟΔΌΣ$7".toList = "_οδός$7".toList := by decide
  have noDotted : '\u0130' ∉ "_ΟΔΌΣ$7".toList := by decide
  obtain ⟨named, again, namedAgain, same⟩ := ofSource_lowercase alone (.inl rfl) rfl
  rw [same.mpr noDotted] at namedAgain
  rw [folded] at named namedAgain
  exact ⟨alone, named, namedAgain⟩

/-- Not every word without quotes names the object that its folded spelling names: of the lower
case of a dotted capital I, only the letter is a name. -/
theorem not_ofSource_lowercase_dotted :
    ¬∀ (source : Text) (token mark : Token),
        tokenize source = .ok [token, mark] →
        token.kind = .identifier ∨ token.kind = .keyword →
        mark.kind = .endOfFile →
        ∃ name, ofSource source = .ok ⟨none, name⟩ ∧ ofSource name = .ok ⟨none, name⟩ := by
  intro idempotent
  have alone : tokenize ['\u0130'] = .ok
      [⟨.identifier, ⟨0, 2⟩, ⟨1, 1⟩, ['\u0130']⟩, ⟨.endOfFile, ⟨2, 0⟩, ⟨1, 2⟩, []⟩] := by
    decide +kernel
  have named : ofSource ['\u0130'] = .ok ⟨none, ['i', '\u0307']⟩ := by decide +kernel
  have again : ofSource ['i', '\u0307'] = .ok ⟨none, ['i']⟩ := by decide +kernel
  obtain ⟨name, first, second⟩ := idempotent _ _ _ alone (.inl rfl) rfl
  rw [named] at first
  cases first
  rw [again] at second
  cases second

end QualifiedName

end SqlLexer
