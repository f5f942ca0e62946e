import SqlLexer.CharClass
import SqlLexer.Text.Basic

/-!
# Usable sources

A source is refused when it is empty or holds nothing but whitespace.  No other source is
refused: malformed lexemes are tokens too.
-/

namespace SqlLexer

/-- Why a source is refused. -/
inductive SourceError where
  | empty
  | blank
deriving DecidableEq

namespace SourceError

/-- What is wrong with the source. -/
def reason : SourceError → String
  | .empty => "source text is empty"
  | .blank => "source text contains only whitespace"

/-- The full message about a refused source. -/
def message (error : SourceError) : Text :=
  "invalid source: ".toList ++ error.reason.toList

end SourceError

/-- Accepts a source or tells why it is refused. -/
def checkSource (source : Text) : Except SourceError Unit :=
  if source.isEmpty then .error .empty
  else if source.all isWhitespace then .error .blank
  else .ok ()

end SqlLexer
