import SqlLexer.Lexeme.Next
import SqlLexer.Source
import SqlLexer.Token.Basic

/-!
# Tokens of a source

A source falls apart into lexemes, which are then laid end to end from the start of the source.
The list ends in an empty end mark.
-/

namespace SqlLexer

/-- Lays lexemes end to end from a byte offset and a location on, and closes them with the end
mark. -/
def placeLexemes
    (offset : Nat)
    (location : Location) :
    List Lexeme → List Token
  | [] => [⟨.endOfFile, ⟨offset, 0⟩, location, []⟩]
  | lexeme :: rest =>
      let length := Text.byteLength lexeme.text
      ⟨lexeme.kind, ⟨offset, length⟩, location, lexeme.text⟩ ::
        placeLexemes (offset + length) (location.walk lexeme.text) rest

@[simp] theorem placeLexemes_nil (offset : Nat) (location : Location) :
    placeLexemes offset location [] = [⟨.endOfFile, ⟨offset, 0⟩, location, []⟩] :=
  rfl

@[simp] theorem placeLexemes_cons
    (offset : Nat)
    (location : Location)
    (lexeme : Lexeme)
    (rest : List Lexeme) :
    placeLexemes offset location (lexeme :: rest) =
      ⟨lexeme.kind, ⟨offset, Text.byteLength lexeme.text⟩, location, lexeme.text⟩ ::
        placeLexemes (offset + Text.byteLength lexeme.text) (location.walk lexeme.text) rest :=
  rfl

/-- The tokens of any text. -/
def tokensOf (source : Text) : List Token :=
  placeLexemes 0 Location.start (lexemes source)

/-- The tokens of a source, unless it is refused. -/
def tokenize (source : Text) : Except SourceError (List Token) := do
  checkSource source
  return tokensOf source

end SqlLexer
