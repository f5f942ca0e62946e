import SqlLexer.Lexeme.Quoted

/-!
# The value of a quoted identifier

Inside the quotes a quote is written twice.  The closing quote may be missing.
-/

namespace SqlLexer
namespace Name

/-- Collapses doubled quotes and stops at the first quote that stands alone. -/
def unquoteBody : Text → Text
  | [] => []
  | c :: rest =>
      if c = doubleQuote then
        match rest with
        | [] => []
        | d :: after => if d = doubleQuote then c :: unquoteBody after else []
      else c :: unquoteBody rest

@[simp] theorem unquoteBody_doubled (rest : Text) :
    unquoteBody (doubleQuote :: doubleQuote :: rest) = doubleQuote :: unquoteBody rest := by
  simp [unquoteBody]

@[simp] theorem unquoteBody_closing : unquoteBody [doubleQuote] = [] := by
  simp [unquoteBody]

theorem unquoteBody_cons_of_ne
    {c : Char}
    (different : c ≠ doubleQuote)
    (rest : Text) :
    unquoteBody (c :: rest) = c :: unquoteBody rest := by
  cases rest <;> simp [unquoteBody, different]

/-- The value of a quoted identifier; the opening quote may be missing as well. -/
def unquote (text : Text) : Text :=
  match text with
  | [] => []
  | c :: rest => if c = doubleQuote then unquoteBody rest else unquoteBody text

end Name
end SqlLexer
