import SqlLexer.CharClass
import SqlLexer.Lexeme.Basic

/-!
# Dollar-quoted strings

The delimiter is a tag between two dollars, where the tag is empty or an identifier without a
dollar.  The string reaches through the next occurrence of its delimiter, or to the end of the
text when there is none.  A dollar that does not open a delimiter is an operator.
-/

namespace SqlLexer
namespace Lexeme

/-- The characters of a tag, after its first one. -/
def isTagPart (c : Char) : Bool :=
  c ≠ '$' && isIdentifierPart c

/-- The tag at the head of a text. -/
def dollarTag : Text → Text
  | [] => []
  | c :: rest =>
      if isIdentifierStart c then c :: rest.takeWhile isTagPart
      else []

/-- The delimiter at the head of a text: one character, a tag and a dollar. -/
def dollarDelimiter? (text : Text) : Option Text :=
  match text with
  | [] => none
  | opener :: rest =>
      let tag := dollarTag rest
      match rest.drop tag.length with
      | closer :: _ => if closer = '$' then some (opener :: (tag ++ [closer])) else none
      | [] => none

/-- The dollar-quoted string at the head of a text, or its first character as an operator. -/
def dollarQuotedString (text : Text) : Lexeme :=
  match dollarDelimiter? text with
  | some delimiter =>
      ⟨.dollarQuotedString,
        delimiter ++ Text.throughFirst delimiter (text.drop delimiter.length)⟩
  | none => ⟨.operator, text.take 1⟩

end Lexeme
end SqlLexer
