/-!
# Texts

A text is the list of its characters.  This module also holds how numbers are written and how
the first occurrence of one text in another and the last one of a character are found.
-/

namespace SqlLexer

/-- A sequence of characters. -/
abbrev Text := List Char

namespace Text

/-- The decimal digits of a number. -/
def decimal (number : Nat) : Text :=
  Nat.toDigits 10 number

/-- The lower-case hexadecimal digits of a number, without leading zeros. -/
def hexadecimal (number : Nat) : Text :=
  Nat.toDigits 16 number

/-- The part of a text up to the end of the first occurrence of `mark`, or all of the text when
it has none. -/
def throughFirst (mark : Text) : Text → Text
  | [] => []
  | c :: rest =>
      if mark.isPrefixOf (c :: rest) then mark
      else c :: throughFirst mark rest

@[simp] theorem throughFirst_nil (mark : Text) : throughFirst mark [] = [] :=
  rfl

theorem throughFirst_cons (mark : Text) (c : Char) (rest : Text) :
    throughFirst mark (c :: rest) =
      if mark.isPrefixOf (c :: rest) then mark
      else c :: throughFirst mark rest :=
  rfl

/-- The part of a text behind the last occurrence of a character, if it occurs. -/
def afterLast? (mark : Char) : Text → Option Text
  | [] => none
  | c :: rest =>
      match afterLast? mark rest with
      | some after => some after
      | none => if c = mark then some rest else none

end Text
end SqlLexer
