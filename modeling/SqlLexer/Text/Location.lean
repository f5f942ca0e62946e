import SqlLexer.Text.Basic

/-!
# Lines and columns

Both are counted from one.  A line feed moves to the first column of the next line; every other
character, tab and carriage return included, moves one column to the right.
-/

namespace SqlLexer

/-- A place in a text, by line and by column within the line. -/
structure Location where
  line : Nat
  column : Nat
deriving DecidableEq

namespace Location

/-- Where every text begins. -/
def start : Location :=
  ⟨1, 1⟩

/-- The place after one character. -/
def step (location : Location) (c : Char) : Location :=
  if c = '\n' then ⟨location.line + 1, 1⟩
  else ⟨location.line, location.column + 1⟩

/-- The place after a text. -/
def walk (location : Location) (text : Text) : Location :=
  text.foldl step location

@[simp] theorem walk_nil (location : Location) : location.walk [] = location :=
  rfl

@[simp] theorem walk_cons (location : Location) (c : Char) (rest : Text) :
    location.walk (c :: rest) = (location.step c).walk rest :=
  rfl

@[simp] theorem walk_append (location : Location) (first second : Text) :
    location.walk (first ++ second) = (location.walk first).walk second :=
  List.foldl_append

end Location
end SqlLexer
