import SqlLexer.Source
import SqlLexer.Text.Location
import SqlLexer.Token.Basic

/-!
# Errors of readers

A reader of a token stream reports what it expected and what it met, together with the place.
-/

namespace SqlLexer

/-- Why tokens do not form what a reader expects. -/
inductive ParseError.Cause where
  | unexpectedToken (expected found : Text)
  | unexpectedEnd (expected : Text)
  | invalid (reason : Text)
deriving DecidableEq

/-- A failure of a reader at a place in the source. -/
structure ParseError where
  cause : ParseError.Cause
  location : Location
deriving DecidableEq

namespace ParseError

/-- What is wrong, without the place. -/
def Cause.message : Cause → Text
  | .unexpectedToken expected found =>
      "expected ".toList ++ expected ++ ", got '".toList ++ found ++ "'".toList
  | .unexpectedEnd expected =>
      "expected ".toList ++ expected ++ ", reached end of input".toList
  | .invalid reason => reason

/-- What is wrong and where. -/
def message (error : ParseError) : Text :=
  error.cause.message ++ " at line ".toList ++ Text.decimal error.location.line ++
    ", column ".toList ++ Text.decimal error.location.column

/-- An error at a token. -/
def atToken (token : Token) (cause : Cause) : ParseError :=
  ⟨cause, token.location⟩

end ParseError

/-- Any failure to read a source: the source is refused, or its tokens are not as expected. -/
inductive ReadError where
  | source (error : SourceError)
  | parse (error : ParseError)
deriving DecidableEq

/-- The message about a source that could not be read. -/
def ReadError.message : ReadError → Text
  | .source error => error.message
  | .parse error => error.message

end SqlLexer
