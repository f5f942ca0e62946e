import SqlLexer.Text.Location
import SqlLexer.Token.Kind
import SqlLexer.Token.Span
import SqlLexer.Word.Fold

/-!
# Tokens

A token is a classified stretch of a source text together with its place and its own text.
-/

namespace SqlLexer

/-- A classified piece of a source text. -/
structure Token where
  kind : Kind
  span : Span
  location : Location
  text : Text
deriving DecidableEq

namespace Token

/-- The token whose text is what a span covers in a source. -/
def ofSpan
    (kind : Kind)
    (span : Span)
    (location : Location)
    (source : Text) : Token :=
  ⟨kind, span, location, span.slice source⟩

/-- Whether the token is the keyword `word`, whatever the case of its ASCII letters. -/
def isKeywordText (token : Token) (word : Text) : Bool :=
  token.kind.isKeyword && Word.fold token.text == Word.fold word

/-- The place just past the token's text: behind its last line feed if it has one, and otherwise
further on in the line where the token starts. -/
def locationAfter (token : Token) : Location :=
  match Text.afterLast? '\n' token.text with
  | some lastLine =>
      ⟨token.location.line + token.text.count '\n', lastLine.length + 1⟩
  | none => ⟨token.location.line, token.location.column + token.text.length⟩

/-- The source text under a list of tokens; the end mark adds nothing. -/
def concatText (tokens : List Token) : Text :=
  (tokens.filter fun token => token.kind ≠ .endOfFile).flatMap Token.text

/-- The tokens that are not trivia. -/
def significant (tokens : List Token) : List Token :=
  tokens.filter fun token => token.kind.isSignificant

end Token
end SqlLexer
