import SqlLexer.Lexeme.Basic

/-!
# Comments

A line comment ends before the next line feed.  Block comments nest, and one that is never
closed reaches to the end of the text.
-/

namespace SqlLexer
namespace Lexeme

/-- The two characters that open a line comment. -/
def lineOpener : Text := ['-', '-']

/-- The two characters that open a block comment. -/
def blockOpener : Text := ['/', '*']

/-- The two characters that close a block comment. -/
def blockCloser : Text := ['*', '/']

/-- Everything up to, but not including, the next line feed. -/
def lineComment (text : Text) : Lexeme :=
  ⟨.lineComment, text.takeWhile (· ≠ '\n')⟩

/-- The rest of a block comment after its opener, while `depth` more comments than this one are
open. -/
def blockBody (depth : Nat) : Text → Text
  | [] => []
  | [c] => [c]
  | c :: d :: rest =>
      if c = '/' ∧ d = '*' then c :: d :: blockBody (depth + 1) rest
      else if c = '*' ∧ d = '/' then
        match depth with
        | 0 => [c, d]
        | outer + 1 => c :: d :: blockBody outer rest
      else c :: blockBody depth (d :: rest)

@[simp] theorem blockBody_nil (depth : Nat) : blockBody depth [] = [] := by
  rfl

@[simp] theorem blockBody_opener (depth : Nat) (rest : Text) :
    blockBody depth ('/' :: '*' :: rest) = '/' :: '*' :: blockBody (depth + 1) rest := by
  simp [blockBody]

@[simp] theorem blockBody_closer_zero (rest : Text) :
    blockBody 0 ('*' :: '/' :: rest) = ['*', '/'] := by
  simp [blockBody]

@[simp] theorem blockBody_closer_succ (depth : Nat) (rest : Text) :
    blockBody (depth + 1) ('*' :: '/' :: rest) = '*' :: '/' :: blockBody depth rest := by
  simp [blockBody]

theorem blockBody_cons_cons_of_not
    {c d : Char}
    (noOpener : ¬(c = '/' ∧ d = '*'))
    (noCloser : ¬(c = '*' ∧ d = '/'))
    (depth : Nat)
    (rest : Text) :
    blockBody depth (c :: d :: rest) = c :: blockBody depth (d :: rest) := by
  simp only [blockBody, noOpener, noCloser, if_false]

/-- An opener of two characters and the comment up to its own closer. -/
def blockComment (text : Text) : Lexeme :=
  ⟨.blockComment, text.take 2 ++ blockBody 0 (text.drop 2)⟩

end Lexeme
end SqlLexer
