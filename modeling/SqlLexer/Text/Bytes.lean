import SqlLexer.Text.Basic

/-!
# Byte offsets

Offsets into a text count the bytes of its UTF-8 form.  An offset is usable only where a
character starts or the text ends; there is nothing at any other offset.
-/

namespace SqlLexer
namespace Text

/-- How many bytes the UTF-8 form of a text has. -/
def byteLength : Text → Nat
  | [] => 0
  | c :: rest => c.utf8Size + byteLength rest

@[simp] theorem byteLength_nil : byteLength [] = 0 :=
  rfl

@[simp] theorem byteLength_cons (c : Char) (rest : Text) :
    byteLength (c :: rest) = c.utf8Size + byteLength rest :=
  rfl

@[simp] theorem byteLength_append (first second : Text) :
    byteLength (first ++ second) = byteLength first + byteLength second := by
  induction first with
  | nil => simp
  | cons c rest inductionHypothesis =>
      simp [inductionHypothesis, Nat.add_assoc]

/-- The text before and after a byte offset, if a character starts there or the text ends
there. -/
def splitAtByte? : Nat → Text → Option (Text × Text)
  | 0, text => some ([], text)
  | _ + 1, [] => none
  | offset + 1, c :: rest =>
      if c.utf8Size ≤ offset + 1 then
        (splitAtByte? (offset + 1 - c.utf8Size) rest).map fun (before, after) =>
          (c :: before, after)
      else none

@[simp] theorem splitAtByte?_zero (text : Text) : splitAtByte? 0 text = some ([], text) := by
  cases text <;> rfl

/-- A text splits at the end of each of its initial parts. -/
@[simp] theorem splitAtByte?_append (before after : Text) :
    splitAtByte? (byteLength before) (before ++ after) = some (before, after) := by
  induction before with
  | nil => simp
  | cons c rest inductionHypothesis =>
      have positive := c.utf8Size_pos
      obtain ⟨size, sizeEq⟩ : ∃ size, c.utf8Size + byteLength rest = size + 1 :=
        ⟨c.utf8Size + byteLength rest - 1, by omega⟩
      have fits : c.utf8Size ≤ size + 1 := by omega
      have left : size + 1 - c.utf8Size = byteLength rest := by omega
      simp [sizeEq, splitAtByte?, fits, left, inductionHypothesis]

/-- The text from a byte offset on, or nothing where the offset is not usable. -/
def dropBytes (offset : Nat) (text : Text) : Text :=
  match splitAtByte? offset text with
  | some (_, after) => after
  | none => []

/-- The text between two byte offsets, or nothing where one of them is not usable or they are
out of order. -/
def slice (text : Text) (first last : Nat) : Text :=
  match splitAtByte? first text with
  | some (_, after) =>
      if first ≤ last then
        match splitAtByte? (last - first) after with
        | some (between, _) => between
        | none => []
      else []
  | none => []

@[simp] theorem dropBytes_append (before after : Text) :
    dropBytes (byteLength before) (before ++ after) = after := by
  simp [dropBytes]

end Text
end SqlLexer
