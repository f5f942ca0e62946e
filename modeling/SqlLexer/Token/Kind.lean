/-!
# Kinds of tokens

Each kind has a label, which identifies it in listings, and a description, which names it to a
reader of an error message.
-/

namespace SqlLexer

/-- What a piece of SQL text is. -/
inductive Kind where
  | whitespace
  | lineComment
  | blockComment
  | keyword
  | identifier
  | quotedIdentifier
  | stringLiteral
  | dollarQuotedString
  | numericLiteral
  | operator
  | openParen
  | closeParen
  | openBracket
  | closeBracket
  | semicolon
  | comma
  | dot
  | endOfFile
  | unknown
deriving DecidableEq

namespace Kind

/-- Every kind once. -/
def all : List Kind :=
  [.whitespace, .lineComment, .blockComment, .keyword, .identifier, .quotedIdentifier,
    .stringLiteral, .dollarQuotedString, .numericLiteral, .operator, .openParen, .closeParen,
    .openBracket, .closeBracket, .semicolon, .comma, .dot, .endOfFile, .unknown]

/-- The name of a kind in a token listing. -/
def label : Kind → String
  | .whitespace => "Whitespace"
  | .lineComment => "LineComment"
  | .blockComment => "BlockComment"
  | .keyword => "Keyword"
  | .identifier => "Identifier"
  | .quotedIdentifier => "QuotedIdentifier"
  | .stringLiteral => "StringLiteral"
  | .dollarQuotedString => "DollarQuotedString"
  | .numericLiteral => "NumericLiteral"
  | .operator => "Operator"
  | .openParen => "OpenParen"
  | .closeParen => "CloseParen"
  | .openBracket => "OpenBracket"
  | .closeBracket => "CloseBracket"
  | .semicolon => "Semicolon"
  | .comma => "Comma"
  | .dot => "Dot"
  | .endOfFile => "EndOfFile"
  | .unknown => "Unknown"

/-- The kind with a given label. -/
def ofLabel? (label : String) : Option Kind :=
  all.find? fun kind => kind.label = label

/-- The name of a kind in a message. -/
def description : Kind → String
  | .whitespace => "whitespace"
  | .lineComment => "line comment"
  | .blockComment => "block comment"
  | .keyword => "keyword"
  | .identifier => "identifier"
  | .quotedIdentifier => "quoted identifier"
  | .stringLiteral => "string literal"
  | .dollarQuotedString => "dollar-quoted string"
  | .numericLiteral => "numeric literal"
  | .operator => "operator"
  | .openParen => "'('"
  | .closeParen => "')'"
  | .openBracket => "'['"
  | .closeBracket => "']'"
  | .semicolon => "';'"
  | .comma => "','"
  | .dot => "'.'"
  | .endOfFile => "end of input"
  | .unknown => "unknown character"

/-- Whitespace and comments, which separate tokens and mean nothing themselves. -/
def isTrivia : Kind → Bool
  | .whitespace | .lineComment | .blockComment => true
  | _ => false

/-- Every kind that is not trivia, the end mark included. -/
def isSignificant (kind : Kind) : Bool :=
  !kind.isTrivia

/-- Strings and numbers. -/
def isLiteral : Kind → Bool
  | .stringLiteral | .dollarQuotedString | .numericLiteral => true
  | _ => false

/-- Identifiers, with quotes or without. -/
def isIdentifier : Kind → Bool
  | .identifier | .quotedIdentifier => true
  | _ => false

/-- Reserved words. -/
def isKeyword : Kind → Bool
  | .keyword => true
  | _ => false

/-- Operators. -/
def isOperator : Kind → Bool
  | .operator => true
  | _ => false

end Kind
end SqlLexer
