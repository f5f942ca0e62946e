import SqlLexer.Lexeme.Basic

/-!
# Quoted lexemes

Strings and quoted identifiers reach to the next quote that is not doubled, or to the end of
the text when there is none.
-/

namespace SqlLexer

/-- The quote around string literals. -/
def singleQuote : Char := '\x27'

/-- The quote around identifiers that keep their spelling. -/
def doubleQuote : Char := '\x22'

namespace Lexeme

/-- The rest of a quoted lexeme after its first character. -/
def quotedBody (quote : Char) : Text → Text
  | [] => []
  | c :: rest =>
      if c = quote then
        match rest with
        | [] => [c]
        | d :: after =>
            if d = quote then c :: d :: quotedBody quote after
            else [c]
      else c :: quotedBody quote rest

@[simp] theorem quotedBody_nil (quote : Char) : quotedBody quote [] = [] :=
  rfl

theorem quotedBody_cons_of_ne
    {quote c : Char}
    (different : c ≠ quote)
    (rest : Text) :
    quotedBody quote (c :: rest) = c :: quotedBody quote rest := by
  cases rest <;> simp [quotedBody, different]

@[simp] theorem quotedBody_doubled (quote : Char) (rest : Text) :
    quotedBody quote (quote :: quote :: rest) = quote :: quote :: quotedBody quote rest := by
  simp [quotedBody]

/-- An opening character and everything up to the closing quote. -/
def quoted (quote : Char) (text : Text) : Text :=
  text.take 1 ++ quotedBody quote (text.drop 1)

/-- The string literal at the head of a text. -/
def stringLiteral (text : Text) : Lexeme :=
  ⟨.stringLiteral, quoted singleQuote text⟩

/-- The quoted identifier at the head of a text. -/
def quotedIdentifier (text : Text) : Lexeme :=
  ⟨.quotedIdentifier, quoted doubleQuote text⟩

end Lexeme
end SqlLexer
