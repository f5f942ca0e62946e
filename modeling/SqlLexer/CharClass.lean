import SqlLexer.Unicode.Alphabetic

/-!
# Character classes of SQL text

The classes decide how a lexeme starts and how far it reaches.  Letters are those of all
scripts, digits only those of ASCII.
-/

namespace SqlLexer

/-- Space, tab, carriage return and line feed. -/
def isWhitespace (c : Char) : Bool :=
  c = ' ' || c = '\t' || c = '\r' || c = '\n'

/-- Characters that start an unquoted word: the underscore and letters. -/
def isIdentifierStart (c : Char) : Bool :=
  c = '_' || Unicode.alphabetic.contains c

/-- The digits `0` to `9`. -/
def isDigit (c : Char) : Bool :=
  '0' ≤ c && c ≤ '9'

/-- Characters that continue an unquoted word. -/
def isIdentifierPart (c : Char) : Bool :=
  isIdentifierStart c || isDigit c || c = '$'

/-- The characters that form an operator even when they stand alone. -/
def operatorChars : List Char :=
  ['+', '-', '*', '/', '%', '^', '<', '>', '=', '!', '|', '&', '~', '#']

/-- Whether a character alone may be an operator. -/
def isOperatorChar (c : Char) : Bool :=
  operatorChars.contains c

/-- Parentheses, brackets, semicolon, comma and dot. -/
def isPunctuation (c : Char) : Bool :=
  ['(', ')', '[', ']', ';', ',', '.'].contains c

/-- The named classes of characters. -/
inductive CharClass where
  | whitespace
  | identifierStart
  | identifierPart
  | digit
  | operatorChar
  | punctuation
deriving DecidableEq

/-- Membership of a character in a class. -/
def CharClass.contains : CharClass → Char → Bool
  | .whitespace => isWhitespace
  | .identifierStart => isIdentifierStart
  | .identifierPart => isIdentifierPart
  | .digit => isDigit
  | .operatorChar => isOperatorChar
  | .punctuation => isPunctuation

/-- Every class, in the order in which a character is described. -/
def CharClass.all : List CharClass :=
  [.whitespace, .identifierStart, .identifierPart, .digit, .operatorChar, .punctuation]

end SqlLexer
