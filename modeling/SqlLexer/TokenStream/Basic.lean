import SqlLexer.ParseError
import SqlLexer.Tokenization

/-!
# Token streams

A token stream is a list of tokens with a position in it.  Past the last token it shows an end
mark without end, so looking ahead and advancing are always possible.
-/

namespace SqlLexer

/-- A list of tokens of a source, a position in it and the end mark that follows it. -/
structure TokenStream where
  source : Text
  tokens : Array Token
  position : Nat
  endMark : Token
  endMark_kind : endMark.kind = .endOfFile

namespace TokenStream

/-- An empty end mark at a byte offset and a location. -/
def endMarkAt
    (source : Text)
    (offset : Nat)
    (location : Location) : Token :=
  .ofSpan .endOfFile ⟨offset, 0⟩ location source

/-- The end mark of a token list: its last token if that is one, and otherwise an empty mark
where the next token would start.  An empty list has its mark behind the last byte of the
source, at the first line and column. -/
def endMarkOf (source : Text) (tokens : List Token) : Token :=
  match tokens.getLast? with
  | some last =>
      if last.kind = .endOfFile then last
      else endMarkAt source last.span.stop last.locationAfter
  | none => endMarkAt source (Text.byteLength source) Location.start

theorem endMarkOf_kind (source : Text) (tokens : List Token) :
    (endMarkOf source tokens).kind = .endOfFile := by
  unfold endMarkOf
  split
  · split
    · assumption
    · rfl
  · rfl

/-- The stream over any list of tokens, at its start. -/
def ofTokens (source : Text) (tokens : List Token) : TokenStream where
  source := source
  tokens := tokens.toArray
  position := 0
  endMark := endMarkOf source tokens
  endMark_kind := endMarkOf_kind source tokens

/-- The stream over the tokens of a source, unless the source is refused. -/
def ofSource (source : Text) : Except SourceError TokenStream := do
  let tokens ← tokenize source
  return ofTokens source tokens

/-- Whether the position is past the last token. -/
def isAtEnd (stream : TokenStream) : Bool :=
  stream.tokens.size ≤ stream.position

/-- How many tokens lie ahead. -/
def tokensLeft (stream : TokenStream) : Nat :=
  stream.tokens.size - stream.position

/-- The tokens that lie ahead. -/
def remaining (stream : TokenStream) : List Token :=
  stream.tokens.toList.drop stream.position

/-- The token some places ahead, or the end mark. -/
def peek (stream : TokenStream) (places : Nat) : Token :=
  stream.tokens[stream.position + places]?.getD stream.endMark

/-- The token at the position, or the end mark. -/
def current (stream : TokenStream) : Token :=
  stream.peek 0

/-- Moves past the current token; the end stays where it is. -/
def advance (stream : TokenStream) : TokenStream :=
  if stream.position < stream.tokens.size then
    { stream with position := stream.position + 1 }
  else stream

/-- Moves to a position, or to the end if the position is beyond it. -/
def seek (stream : TokenStream) (position : Nat) : TokenStream :=
  { stream with position := min position stream.tokens.size }

/-- Whether the current token is of a kind. -/
def check (stream : TokenStream) (kind : Kind) : Bool :=
  stream.current.kind = kind

/-- Whether the current token is of one of several kinds. -/
def checkAny (stream : TokenStream) (kinds : List Kind) : Bool :=
  kinds.any stream.check

/-- Whether the current token is a given keyword. -/
def checkKeyword (stream : TokenStream) (word : Text) : Bool :=
  stream.current.isKeywordText word

/-- Takes the current token if it is accepted, and tells whether it was. -/
def takeIf (stream : TokenStream) (accepted : Bool) : Bool × TokenStream :=
  (accepted, if accepted then stream.advance else stream)

/-- Takes the current token if it is of a kind. -/
def takeKind (stream : TokenStream) (kind : Kind) : Bool × TokenStream :=
  stream.takeIf (stream.check kind)

/-- Takes the current token if it is of one of several kinds. -/
def takeAny (stream : TokenStream) (kinds : List Kind) : Bool × TokenStream :=
  stream.takeIf (stream.checkAny kinds)

/-- Takes the current token if it is a given keyword. -/
def takeKeyword (stream : TokenStream) (word : Text) : Bool × TokenStream :=
  stream.takeIf (stream.checkKeyword word)

/-- The source text under a token's span, which the token's own text need not agree with. -/
def tokenText (stream : TokenStream) (token : Token) : Text :=
  token.span.slice stream.source

/-- The source text under the current token. -/
def currentText (stream : TokenStream) : Text :=
  stream.tokenText stream.current

/-- The error that the current token is not what was expected. -/
def unexpected (stream : TokenStream) (expected : Text) : ParseError :=
  .atToken stream.current <|
    if stream.check .endOfFile then .unexpectedEnd expected
    else .unexpectedToken expected stream.currentText

/-! ## Tokens left after a move -/

@[simp] theorem tokensLeft_advance (stream : TokenStream) :
    stream.advance.tokensLeft = stream.tokensLeft - 1 := by
  unfold advance tokensLeft
  split
  · simp only
    omega
  · omega

/-- A token that is no end mark lies ahead of the end. -/
theorem tokensLeft_pos
    {stream : TokenStream}
    (notEnd : stream.current.kind ≠ .endOfFile) :
    0 < stream.tokensLeft := by
  unfold tokensLeft
  apply Nat.sub_pos_of_lt
  apply Nat.lt_of_not_le
  intro past
  apply notEnd
  rw [current, peek, Nat.add_zero, Array.getElem?_eq_none past]
  exact stream.endMark_kind

/-- A keyword is no end mark. -/
theorem tokensLeft_pos_of_checkKeyword
    {stream : TokenStream}
    {word : Text}
    (found : stream.checkKeyword word) :
    0 < stream.tokensLeft := by
  apply tokensLeft_pos
  intro isEnd
  simp [checkKeyword, Token.isKeywordText, isEnd, Kind.isKeyword] at found

end TokenStream
end SqlLexer
