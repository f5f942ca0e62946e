import SqlLexer.Text.Basic
import SqlLexer.Token.Kind

/-!
# Lexemes

A lexeme is what lies at the head of a text: a kind and the characters that belong to it.  The
characters are always an initial part of the text that was looked at.
-/

namespace SqlLexer

/-- A classified initial part of a text. -/
@[ext] structure Lexeme where
  kind : Kind
  text : Text
deriving DecidableEq

end SqlLexer
