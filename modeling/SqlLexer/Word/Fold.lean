import SqlLexer.Text.Basic

/-!
# Words without letter case

Reserved words are compared without regard to the case of ASCII letters; every other character
counts as it is.
-/

namespace SqlLexer
namespace Word

/-- The word with `a` to `z` in upper case. -/
def fold (word : Text) : Text :=
  word.map Char.toUpper

@[simp] theorem fold_nil : fold [] = [] :=
  rfl

@[simp] theorem fold_cons (c : Char) (rest : Text) :
    fold (c :: rest) = c.toUpper :: fold rest :=
  rfl

@[simp] theorem length_fold (word : Text) : (fold word).length = word.length :=
  List.length_map Char.toUpper

@[simp] theorem fold_append (first second : Text) :
    fold (first ++ second) = fold first ++ fold second :=
  List.map_append

end Word
end SqlLexer
