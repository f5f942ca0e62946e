import SqlLexer.Lexeme.Comment

/-!
# Operators

The operators of several characters form a table in which a longer operator stands before every
shorter one.  An operator never reaches into a comment: a candidate that contains a comment
opener, alone or with the character after it, is passed over.
-/

namespace SqlLexer
namespace Lexeme

/-- The spellings of the operators of several characters, the longest first. -/
def operatorSpellings : List String := [
  "!~~*", "!~~", "!~*", "~~*", "->>", "#>>", "<->", "<<=", ">>=", "<<|", "|>>", "&<|", "|&>",
  "||/", "-|-", "@@@", "<>", "!=", ">=", "<=", "::", ":=", "=>", "||", "|/", "&&", "&<", "&>",
  "@>", "<@", "->", "#>", "#-", "?|", "?&", "?-", "?#", "~~", "~*", "!~", "<<", ">>", "@@", "##",
  "!!"]

/-- The operators of several characters, the longest first. -/
def operators : List Text :=
  operatorSpellings.map String.toList

/-- Whether a comment opener occurs somewhere in a text. -/
def hasCommentOpener : Text → Bool
  | [] => false
  | c :: rest =>
      lineOpener.isPrefixOf (c :: rest) || blockOpener.isPrefixOf (c :: rest) ||
        hasCommentOpener rest

/-- Whether an operator may be read at the head of a text: it is there, and no comment starts
in it. -/
def admits (text operator : Text) : Bool :=
  operator.isPrefixOf text && !hasCommentOpener (text.take (operator.length + 1))

/-- The longest operator of the table that may be read at the head of a text. -/
def longestOperator? (text : Text) : Option Text :=
  operators.find? (admits text)

/-- The longest operator of the table, or else one character. -/
def operator (text : Text) : Lexeme :=
  ⟨.operator, (longestOperator? text).getD (text.take 1)⟩

end Lexeme
end SqlLexer
