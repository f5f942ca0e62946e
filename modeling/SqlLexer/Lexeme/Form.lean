import SqlLexer.Lexeme.Comment
import SqlLexer.Lexeme.DollarQuoted
import SqlLexer.Lexeme.Number
import SqlLexer.Lexeme.Operator
import SqlLexer.Lexeme.Quoted

/-!
# Forms of lexemes

The forms of lexemes that have rules of their own.  Each is read without a check of its first
character, which is up to the caller.
-/

namespace SqlLexer
namespace Lexeme

/-- The forms of lexemes of several characters. -/
inductive Form where
  | lineComment
  | blockComment
  | number
  | operator
  | stringLiteral
  | quotedIdentifier
  | dollarQuotedString
deriving DecidableEq

/-- The lexeme of a given form at the head of a text. -/
def Form.read : Form → Text → Lexeme
  | .lineComment => Lexeme.lineComment
  | .blockComment => Lexeme.blockComment
  | .number => Lexeme.number
  | .operator => Lexeme.operator
  | .stringLiteral => Lexeme.stringLiteral
  | .quotedIdentifier => Lexeme.quotedIdentifier
  | .dollarQuotedString => Lexeme.dollarQuotedString

end Lexeme
end SqlLexer
