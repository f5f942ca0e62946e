import SqlLexer.Proofs.Lexeme.Edge
import SqlLexer.Proofs.Name.Quoting
import SqlLexer.Proofs.Surroundings

/-!
# Values of quoted identifiers

The lexer and the reader of names pair the quotes of an identifier one after the other.  Both stop
at the same quote, so that the value of a quoted identifier spells all of it again, whether a quote
closes it or the source ends before.
-/

namespace SqlLexer

open Lexeme (First doubled)

/-! ## The quote that closes -/

namespace Lexeme

/-- Whether a quoted lexeme is found closed, seen from behind its opening quote: there is a quote
that stands alone when quotes are paired from the left. -/
def findsClosing (quote : Char) : Text → Bool
  | [] => false
  | c :: rest =>
      if c = quote then
        match rest with
        | [] => true
        | d :: after => if d = quote then findsClosing quote after else true
      else findsClosing quote rest

@[simp] theorem findsClosing_pair (quote : Char) (rest : Text) :
    findsClosing quote (quote :: quote :: rest) = findsClosing quote rest := by
  simp [findsClosing]

theorem findsClosing_cons_of_ne
    {quote c : Char}
    (different : c ≠ quote)
    (rest : Text) :
    findsClosing quote (c :: rest) = findsClosing quote rest := by
  cases rest <;> simp [findsClosing, different]

/-- A mark without another one behind it closes a quoted text. -/
theorem findsClosing_closing
    {quote : Char}
    {after : Text}
    (closes : quote ∉ after.head?) :
    findsClosing quote (quote :: after) = true := by
  cases after with
  | nil => simp [findsClosing]
  | cons d rest =>
      have different : d ≠ quote := by simpa using closes
      simp [findsClosing, different]

/-- Doubled quotes close nothing. -/
theorem findsClosing_doubled_append (quote : Char) (content rest : Text) :
    findsClosing quote (doubled quote content ++ rest) = findsClosing quote rest := by
  induction content with
  | nil => rfl
  | cons c content inductionHypothesis =>
      by_cases isQuote : c = quote
      · rw [isQuote, doubled_cons_self, List.cons_append, List.cons_append, findsClosing_pair,
          inductionHypothesis]
      · rw [doubled_cons_of_ne isQuote, List.cons_append, findsClosing_cons_of_ne isQuote,
          inductionHypothesis]

end Lexeme

namespace Name

/-- A text with doubled quotes has the value that was doubled, even if no quote follows it. -/
theorem unquoteBody_doubled_eq (name : Text) : unquoteBody (doubled doubleQuote name) = name := by
  induction name with
  | nil => rfl
  | cons c rest inductionHypothesis =>
      by_cases isQuote : c = doubleQuote
      · rw [isQuote, Lexeme.doubled_cons_self, unquoteBody_doubled, inductionHypothesis]
      · rw [Lexeme.doubled_cons_of_ne isQuote, unquoteBody_cons_of_ne isQuote,
          inductionHypothesis]

end Name

/-! ## Quoted identifiers in a source -/

namespace Token

/-- Whether the lexer finds the quote that closes a quoted identifier of a source. -/
def isClosedIn (token : Token) (source : Text) : Bool :=
  Lexeme.findsClosing doubleQuote (Text.dropBytes (token.span.start + 1) source)

/-- A quoted identifier of a source that its value spells again. -/
structure IsSpelledByValue (token : Token) (source : Text) : Prop where
  closed : token.isClosedIn source → token.text = Name.quote (Name.unquote token.text)
  /-- Without a closing quote the identifier reaches to the end of the source. -/
  unclosed : ¬token.isClosedIn source →
    token.text = doubleQuote :: doubled doubleQuote (Name.unquote token.text) ∧
      token.span.stop = Text.byteLength source

/-- What lies behind the opening quote of a token is the text after its first byte. -/
theorem IsBetween.dropBytes_start_succ
    {token : Token}
    {before after inside : Text}
    (between : token.IsBetween before after)
    (opens : token.text ++ after = doubleQuote :: inside) :
    Text.dropBytes (token.span.start + 1) (before ++ (token.text ++ after)) = inside := by
  have behindQuote : token.span.start + 1 = Text.byteLength (before ++ [doubleQuote]) := by
    rw [Text.byteLength_append, between.start]
    rfl
  have source : before ++ (token.text ++ after) = (before ++ [doubleQuote]) ++ inside := by
    rw [opens, List.append_assoc]
    rfl
  rw [behindQuote, source, Text.dropBytes_append]

/-- The value of a quoted identifier between two texts spells it again. -/
theorem IsBetween.isSpelledByValue
    {token : Token}
    {before after : Text}
    (between : token.IsBetween before after)
    (isQuoted : token.kind = .quotedIdentifier) :
    token.IsSpelledByValue (before ++ (token.text ++ after)) := by
  have first : First (token.text ++ after) ⟨.quotedIdentifier, token.text⟩ := by
    rcases between.first with first | ⟨isMark, _⟩
    · rwa [lexeme, isQuoted] at first
    · have isEnd : token.kind = .endOfFile := congrArg Lexeme.kind isMark
      rw [isQuoted] at isEnd
      contradiction
  obtain ⟨inside, opens, isText⟩ := first.exists_quoted .quotedIdentifier
  have isClosed : token.isClosedIn (before ++ (token.text ++ after)) =
      Lexeme.findsClosing doubleQuote inside := by
    rw [isClosedIn, between.dropBytes_start_succ opens]
  -- Behind the opening quote, either one quote stands alone or the text ends with all of them
  -- paired, and the lexer and the value agree on which it is.
  obtain ⟨content, rfl | ⟨rest, closes, rfl⟩⟩ := Lexeme.exists_doubled doubleQuote inside
  · have noneClosing := Lexeme.findsClosing_doubled_append doubleQuote content []
    rw [List.append_nil] at noneClosing
    rw [noneClosing] at isClosed
    have whole : token.text = doubleQuote :: doubled doubleQuote content :=
      isText.trans (congrArg (doubleQuote :: ·) (Lexeme.quotedBody_doubled_eq _ content))
    have value : Name.unquote token.text = content := by
      rw [whole, Name.unquote, if_pos rfl, Name.unquoteBody_doubled_eq]
    have noRest : after = [] := List.append_right_eq_self.mp (opens.trans whole.symm)
    refine ⟨fun closed => ?_, fun _ => ⟨by rw [value, whole], ?_⟩⟩
    · rw [isClosed] at closed
      exact absurd closed Bool.false_ne_true
    · rw [Span.stop, between.start, between.length, noRest, List.append_nil,
        Text.byteLength_append]
  · rw [Lexeme.findsClosing_doubled_append, Lexeme.findsClosing_closing closes] at isClosed
    have quoted : token.text = Name.quote content :=
      isText.trans (Lexeme.quoted_doubled_append closes content)
    refine ⟨fun _ => ?_, fun unclosed => absurd isClosed unclosed⟩
    rw [quoted, Name.unquote_quote]

end Token

/-- The value of a quoted identifier spells all of it: doubled quotes for each quote of the value
between the opening quote and, if the lexer has found one, the closing quote.  So closed quoted
identifiers of one value are the same. -/
theorem isSpelledByValue_of_tokenize
    {source : Text}
    {tokens : List Token}
    (accepted : tokenize source = .ok tokens) :
    (∀ token ∈ tokens, token.kind = .quotedIdentifier → token.IsSpelledByValue source) ∧
      ∀ (other : Text) (others : List Token), tokenize other = .ok others →
        ∀ first ∈ tokens, ∀ second ∈ others,
          first.kind = .quotedIdentifier → first.isClosedIn source →
          second.kind = .quotedIdentifier → second.isClosedIn other →
            Name.unquote first.text = Name.unquote second.text → first.text = second.text := by
  have spelled : ∀ (source : Text) (tokens : List Token), tokenize source = .ok tokens →
      ∀ token ∈ tokens, token.kind = .quotedIdentifier → token.IsSpelledByValue source := by
    intro source tokens accepted token member isQuoted
    obtain ⟨_, rfl⟩ := (tokenize_eq_ok_iff source tokens).mp accepted
    obtain ⟨before, after, rfl, between⟩ := exists_isBetween_of_mem_tokensOf member
    exact between.isSpelledByValue isQuoted
  refine ⟨spelled source tokens accepted, ?_⟩
  intro other others acceptedOther first isFirst second isSecond quotedFirst closedFirst
    quotedSecond closedSecond sameValue
  have firstText := (spelled source tokens accepted first isFirst quotedFirst).closed closedFirst
  have secondText :=
    (spelled other others acceptedOther second isSecond quotedSecond).closed closedSecond
  rw [firstText, secondText, sameValue]

/-- An identifier that ends in a doubled quote and a closing one, which another source has on its
second line, and an open identifier that ends in a doubled quote. -/
theorem isSpelledByValue_of_tokenize_openPair :
    ∃ (tokens others : List Token) (closed unclosed again : Token),
      tokenize "\"a\"\"\" \"é\"\"".toList = .ok tokens ∧
      tokenize "\n\"a\"\"\"".toList = .ok others ∧
      (closed ∈ tokens ∧ unclosed ∈ tokens ∧ again ∈ others) ∧
      (closed.kind = .quotedIdentifier ∧ unclosed.kind = .quotedIdentifier ∧
        again.kind = .quotedIdentifier) ∧
      (closed.isClosedIn "\"a\"\"\" \"é\"\"".toList ∧ again.isClosedIn "\n\"a\"\"\"".toList) ∧
      Name.unquote closed.text = "a\"".toList ∧ Name.unquote again.text = "a\"".toList ∧
      closed.IsSpelledByValue "\"a\"\"\" \"é\"\"".toList ∧
      unclosed.IsSpelledByValue "\"a\"\"\" \"é\"\"".toList ∧
      closed.text = again.text := by
  have accepted : tokenize "\"a\"\"\" \"é\"\"".toList = .ok
      [⟨.quotedIdentifier, ⟨0, 5⟩, ⟨1, 1⟩, "\"a\"\"\"".toList⟩,
        ⟨.whitespace, ⟨5, 1⟩, ⟨1, 6⟩, [' ']⟩,
        ⟨.quotedIdentifier, ⟨6, 5⟩, ⟨1, 7⟩, "\"é\"\"".toList⟩,
        ⟨.endOfFile, ⟨11, 0⟩, ⟨1, 11⟩, []⟩] := by
    decide +kernel
  have acceptedOther : tokenize "\n\"a\"\"\"".toList = .ok
      [⟨.whitespace, ⟨0, 1⟩, ⟨1, 1⟩, ['\n']⟩,
        ⟨.quotedIdentifier, ⟨1, 5⟩, ⟨2, 1⟩, "\"a\"\"\"".toList⟩,
        ⟨.endOfFile, ⟨6, 0⟩, ⟨2, 6⟩, []⟩] := by
    decide +kernel
  obtain ⟨spelled, same⟩ := isSpelledByValue_of_tokenize accepted
  refine ⟨_, _, ⟨.quotedIdentifier, ⟨0, 5⟩, ⟨1, 1⟩, "\"a\"\"\"".toList⟩,
    ⟨.quotedIdentifier, ⟨6, 5⟩, ⟨1, 7⟩, "\"é\"\"".toList⟩,
    ⟨.quotedIdentifier, ⟨1, 5⟩, ⟨2, 1⟩, "\"a\"\"\"".toList⟩,
    accepted, acceptedOther, ⟨by simp, by simp, by simp⟩, ⟨rfl, rfl, rfl⟩,
    ⟨by decide +kernel, by decide +kernel⟩, by decide +kernel, by decide +kernel, ?_, ?_, ?_⟩
  · exact spelled _ (by simp) rfl
  · exact spelled _ (by simp) rfl
  · exact same _ _ acceptedOther _ (by simp) _ (by simp) rfl (by decide +kernel) rfl
      (by decide +kernel) rfl

end SqlLexer
