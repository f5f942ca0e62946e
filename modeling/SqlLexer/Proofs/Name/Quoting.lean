import SqlLexer.Proofs.Lexeme.Doubled
import SqlLexer.Proofs.Name.Statement
import SqlLexer.Proofs.Stripping

/-!
# Names in quotes

Any text becomes an identifier when it is put in double quotes with its own quotes doubled.  The
lexer and the reader of names find their way through the quotes separately, and agree.
-/

namespace SqlLexer

open Declarations
open Lexeme (First doubled significant)
open QualifiedName (partValue?)

namespace Name

/-- The quoted identifier of a given value. -/
def quote (name : Text) : Text :=
  doubleQuote :: (doubled doubleQuote name ++ [doubleQuote])

theorem unquoteBody_doubled_append (name : Text) :
    unquoteBody (doubled doubleQuote name ++ [doubleQuote]) = name := by
  induction name with
  | nil => exact unquoteBody_closing
  | cons c rest inductionHypothesis =>
      by_cases isQuote : c = doubleQuote
      · rw [isQuote, Lexeme.doubled_cons_self, List.cons_append, List.cons_append,
          unquoteBody_doubled, inductionHypothesis]
      · rw [Lexeme.doubled_cons_of_ne isQuote, List.cons_append, unquoteBody_cons_of_ne isQuote,
          inductionHypothesis]

/-- A quoted identifier has the value that was quoted. -/
@[simp] theorem unquote_quote (name : Text) : unquote (quote name) = name := by
  rw [quote, unquote, if_pos rfl, unquoteBody_doubled_append]

/-- A quoted name is one lexeme, unless another quote follows it. -/
theorem first_quote
    {after : Text}
    (closes : doubleQuote ∉ after.head?)
    (name : Text) :
    First (quote name ++ after) ⟨.quotedIdentifier, quote name⟩ := by
  have text : quote name ++ after =
      doubleQuote :: (doubled doubleQuote name ++ doubleQuote :: after) := by
    simp [quote]
  have whole := Lexeme.quoted_doubled_append closes name
  rw [text, quote, ← whole]
  exact .quotedIdentifier

end Name

/-! ## From lexemes to visible tokens -/

/-- Whitespace in front of a text adds no significant lexemes. -/
theorem Lexeme.significant_lexemes_append
    {blank : Text}
    (isBlank : ∀ c ∈ blank, isWhitespace c)
    (text : Text) :
    significant (lexemes (blank ++ text)) = significant (lexemes text) := by
  rw [← significant_lexemes_dropWhile (blank ++ text), List.dropWhile_append_of_pos isBlank,
    significant_lexemes_dropWhile]

/-- The visible tokens of a source are its significant lexemes. -/
theorem map_lexeme_visible_tokensOf (source : Text) :
    (Token.visible (tokensOf source)).map Token.lexeme = significant (lexemes source) := by
  have noMark : ∀ piece ∈ significant (lexemes source), piece.kind ≠ .endOfFile := by
    intro piece member
    exact kind_ne_endOfFile_of_mem_lexemes source piece (List.mem_of_mem_filter member)
  calc (Token.visible (tokensOf source)).map Token.lexeme
      = ((Token.significant (tokensOf source)).map Token.lexeme).takeWhile
          fun piece => piece.kind ≠ .endOfFile := by
        rw [Token.visible_eq_takeWhile, List.takeWhile_map]
        rfl
    _ = significant (lexemes source) := by
        rw [map_lexeme_significant_tokensOf,
          List.takeWhile_append_of_pos fun piece member => decide_eq_true (noMark piece member)]
        exact List.append_nil _

namespace QualifiedName

/-- The name of a source is the one at the head of its visible tokens. -/
theorem ofSource_eq_ok_iff (source : Text) (name : QualifiedName) :
    ofSource source = .ok name ↔
      (∃ c ∈ source, isWhitespace c = false) ∧
        ∃ rest, nameAt? (Token.visible (tokensOf source)) = some (name, rest) := by
  have read := sees_read (TokenStream.ofTokens source (tokensOf source))
  rw [TokenStream.ahead_ofTokens, Reading.seen] at read
  calc
    ofSource source = .ok name ↔
        ∃ stream, TokenStream.ofSource source = .ok stream ∧
          ∃ after, QualifiedName.read stream = .ok name after := by
      rw [ofSource, readSource]
      cases TokenStream.ofSource source with
      | error error => simp
      | ok stream => cases outcome : QualifiedName.read stream <;> simp [outcome]
    _ ↔ _ := by
      simp only [TokenStream.ofSource_eq_ok_iff, and_assoc, exists_and_left, exists_eq_left]
      rw [← read]
      cases QualifiedName.read (.ofTokens source (tokensOf source)) <;> simp

/-- The value of a quoted identifier is the name that has been quoted. -/
theorem partValue?_of_lexeme_eq
    {token : Token}
    {name : Text}
    (isQuoted : token.lexeme = ⟨.quotedIdentifier, Name.quote name⟩) :
    partValue? token = some name := by
  obtain ⟨kind, text⟩ := Lexeme.mk.inj isQuoted
  rw [partValue?, kind, text, Name.unquote_quote]

/-- A quoted identifier alone is a name without a schema. -/
theorem nameAt?_of_quoted
    {tokens : List Token}
    {name : Text}
    (lexemes : tokens.map Token.lexeme = [⟨.quotedIdentifier, Name.quote name⟩]) :
    nameAt? tokens = some (⟨none, name⟩, []) := by
  obtain ⟨token, rfl, isName⟩ := List.map_eq_singleton_iff.mp lexemes
  simp [nameAt?, partAt?, behind?, partValue?_of_lexeme_eq isName]

/-- Two quoted identifiers with a dot between them are a name with a schema. -/
theorem nameAt?_of_qualified
    {tokens : List Token}
    {schema name : Text}
    (lexemes : tokens.map Token.lexeme =
      [⟨.quotedIdentifier, Name.quote schema⟩, ⟨.dot, ['.']⟩,
        ⟨.quotedIdentifier, Name.quote name⟩]) :
    nameAt? tokens = some (⟨some schema, name⟩, []) := by
  obtain ⟨first, afterFirst, rfl, isSchema, lexemes⟩ := List.map_eq_cons_iff.mp lexemes
  obtain ⟨second, afterSecond, rfl, isDot, lexemes⟩ := List.map_eq_cons_iff.mp lexemes
  obtain ⟨third, rfl, isName⟩ := List.map_eq_singleton_iff.mp lexemes
  have dot : second.kind = .dot := congrArg Lexeme.kind isDot
  simp [nameAt?, partAt?, behind?, dot, partValue?_of_lexeme_eq isSchema,
    partValue?_of_lexeme_eq isName]

end QualifiedName

namespace Name

/-- A quoted name is a single lexeme. -/
theorem significant_lexemes_quote (name : Text) :
    significant (lexemes (quote name)) = [⟨.quotedIdentifier, quote name⟩] := by
  have closes : doubleQuote ∉ ([] : Text).head? := Option.not_mem_none _
  have first := first_quote closes name
  rw [List.append_nil] at first
  rw [first.lexemes_eq (List.append_nil _), Lexeme.significant_cons_of_not_isTrivia rfl,
    lexemes_nil]
  rfl

/-- A dot separates two quoted names, whatever stands in their quotes and whatever whitespace
stands around it. -/
theorem significant_lexemes_qualified
    {before after : Text}
    (blankBefore : ∀ c ∈ before, isWhitespace c)
    (blankAfter : ∀ c ∈ after, isWhitespace c)
    (schema name : Text) :
    significant (lexemes (quote schema ++ (before ++ '.' :: (after ++ quote name)))) =
      [⟨.quotedIdentifier, quote schema⟩, ⟨.dot, ['.']⟩, ⟨.quotedIdentifier, quote name⟩] := by
  -- The quote behind the schema closes it, since no other quote follows at once.
  have closes : doubleQuote ∉ (before ++ '.' :: (after ++ quote name)).head? := by
    intro isHead
    cases before with
    | nil => exact absurd (Option.some.inj isHead) (by decide)
    | cons c rest =>
        have blank := blankBefore c List.mem_cons_self
        rw [Option.some.inj isHead] at blank
        exact absurd blank (by decide)
  have dot : lexemes ('.' :: (after ++ quote name)) =
      ⟨.dot, ['.']⟩ :: lexemes (after ++ quote name) :=
    First.lexemes_eq (.punctuation rfl) rfl
  rw [(first_quote closes schema).lexemes_eq rfl, Lexeme.significant_cons_of_not_isTrivia rfl,
    Lexeme.significant_lexemes_append blankBefore, dot,
    Lexeme.significant_cons_of_not_isTrivia rfl, Lexeme.significant_lexemes_append blankAfter,
    significant_lexemes_quote]

/-- Quotes are not whitespace. -/
theorem exists_solid_quote_append (name rest : Text) :
    ∃ c ∈ quote name ++ rest, isWhitespace c = false :=
  ⟨doubleQuote, by simp [quote], by decide⟩

end Name

/-- A name whose parts are quoted is read back as it was, with any whitespace around the dot. -/
theorem QualifiedName.ofSource_quote
    (schema name : Text)
    {before after : Text}
    (blankBefore : ∀ c ∈ before, c ∈ [' ', '\t', '\r', '\n'])
    (blankAfter : ∀ c ∈ after, c ∈ [' ', '\t', '\r', '\n']) :
    ofSource (Name.quote schema ++ (before ++ '.' :: (after ++ Name.quote name))) =
        .ok ⟨some schema, name⟩ ∧
      ofSource (Name.quote name) = .ok ⟨none, name⟩ := by
  have blank (c : Char) (listed : c ∈ [' ', '\t', '\r', '\n']) : isWhitespace c :=
    (isWhitespace_iff c).mpr (by simpa using listed)
  constructor
  · refine (ofSource_eq_ok_iff _ _).mpr ⟨Name.exists_solid_quote_append schema _, [], ?_⟩
    apply nameAt?_of_qualified
    rw [map_lexeme_visible_tokensOf]
    exact Name.significant_lexemes_qualified (fun c member => blank c (blankBefore c member))
      (fun c member => blank c (blankAfter c member)) schema name
  · have solid := Name.exists_solid_quote_append name []
    rw [List.append_nil] at solid
    refine (ofSource_eq_ok_iff _ _).mpr ⟨solid, [], ?_⟩
    apply nameAt?_of_quoted
    rw [map_lexeme_visible_tokensOf, Name.significant_lexemes_quote]

/-- A schema of quotes, a dot and a comment opener, and a name of nothing but a quote, a line feed
and a NUL. -/
theorem QualifiedName.ofSource_quote_quotesInside :
    ((∀ c ∈ "\t".toList, c ∈ [' ', '\t', '\r', '\n']) ∧
      ∀ c ∈ "\r\n ".toList, c ∈ [' ', '\t', '\r', '\n']) ∧
    Name.quote "\"\".--".toList ++ ("\t".toList ++ '.' :: ("\r\n ".toList ++
        Name.quote "\"\n\x00".toList)) =
      "\"\"\"\"\".--\"\t.\r\n \"\"\"\n\x00\"".toList ∧
    ofSource "\"\"\"\"\".--\"\t.\r\n \"\"\"\n\x00\"".toList =
      .ok ⟨some "\"\".--".toList, "\"\n\x00".toList⟩ ∧
    ofSource (Name.quote "\"\n\x00".toList) = .ok ⟨none, "\"\n\x00".toList⟩ := by
  have blankBefore : ∀ c ∈ "\t".toList, c ∈ [' ', '\t', '\r', '\n'] := by simp
  have blankAfter : ∀ c ∈ "\r\n ".toList, c ∈ [' ', '\t', '\r', '\n'] := by simp
  have spelled : Name.quote "\"\".--".toList ++ ("\t".toList ++ '.' :: ("\r\n ".toList ++
      Name.quote "\"\n\x00".toList)) =
        "\"\"\"\"\".--\"\t.\r\n \"\"\"\n\x00\"".toList := by
    decide
  have read := ofSource_quote "\"\".--".toList "\"\n\x00".toList blankBefore blankAfter
  rw [spelled] at read
  exact ⟨⟨blankBefore, blankAfter⟩, spelled, read⟩

end SqlLexer
