import Mathlib.Data.List.TakeWhile
import SqlLexer.Proofs.Lexeme.Initial

/-!
# The grammar of dollar delimiters

A delimiter is an opening character, a tag and a dollar, where no tag holds a dollar.  A text
starts with at most one delimiter, and the one that is looked for is found.
-/

namespace SqlLexer
namespace Lexeme

/-- Nothing, or an identifier without a dollar. -/
inductive Tag : Text → Prop
  | empty : Tag []
  | word {c : Char} {rest : Text}
      (start : isIdentifierStart c)
      (parts : ∀ d ∈ rest, isTagPart d) :
      Tag (c :: rest)

/-- An opening character, a tag and a dollar. -/
inductive Delimiter : Text → Prop
  | tagged {tag : Text}
      (opener : Char)
      (isTag : Tag tag) :
      Delimiter (opener :: (tag ++ ['$']))

theorem dollarTag_belongs (text : Text) : Tag (dollarTag text) := by
  unfold dollarTag
  split
  · exact .empty
  · split
    · rename_i start
      exact .word start fun _ => List.mem_takeWhile_imp
    · exact .empty

/-- A tag before a dollar is the one that is read. -/
theorem Tag.dollarTag_append
    {tag : Text}
    (isTag : Tag tag)
    (rest : Text) :
    dollarTag (tag ++ '$' :: rest) = tag := by
  cases isTag with
  | empty =>
      have notStart : isIdentifierStart '$' = false := by decide
      simp [dollarTag, notStart]
  | word start parts =>
      simp [dollarTag, start, List.takeWhile_append_of_pos parts, isTagPart]

/-- A delimiter is found exactly when it lies at the head of the text. -/
theorem dollarDelimiter?_eq_some_iff (text delimiter : Text) :
    dollarDelimiter? text = some delimiter ↔ Delimiter delimiter ∧ delimiter <+: text := by
  constructor
  · intro found
    refine ⟨?_, dollarDelimiter?_initial found⟩
    unfold dollarDelimiter? at found
    split at found
    · cases found
    · rename_i opener rest
      dsimp only at found
      split at found
      · split at found
        · rename_i isDollar
          cases found
          subst isDollar
          exact .tagged opener (dollarTag_belongs rest)
        · cases found
      · cases found
  · rintro ⟨isDelimiter, rest, rfl⟩
    cases isDelimiter with
    | tagged opener isTag => simp [dollarDelimiter?, isTag.dollarTag_append]

/-- A dollar that opens no delimiter is an operator. -/
theorem dollarQuotedString_of_none
    {rest : Text}
    (nothing : dollarDelimiter? ('$' :: rest) = none) :
    dollarQuotedString ('$' :: rest) = ⟨.operator, ['$']⟩ := by
  rw [dollarQuotedString, nothing]
  rfl

/-- A dollar that opens no string has no delimiter behind it. -/
theorem dollarDelimiter?_of_kind_ne
    {rest : Text}
    (noString : (dollarQuotedString ('$' :: rest)).kind ≠ .dollarQuotedString) :
    dollarDelimiter? ('$' :: rest) = none := by
  cases found : dollarDelimiter? ('$' :: rest) with
  | none => rfl
  | some delimiter =>
      rw [dollarQuotedString, found] at noString
      contradiction

theorem Tag.space_not_mem {tag : Text} (isTag : Tag tag) : ' ' ∉ tag := by
  cases isTag with
  | empty => simp
  | word start parts =>
      intro member
      rcases List.mem_cons.mp member with rfl | inRest
      · exact absurd start (by decide)
      · exact absurd (parts ' ' inRest) (by decide)

theorem Delimiter.space_not_mem
    {delimiter text : Text}
    (isDelimiter : Delimiter delimiter)
    (here : delimiter <+: '$' :: text) :
    ' ' ∉ delimiter := by
  cases isDelimiter with
  | tagged opener isTag =>
      obtain ⟨rfl, _⟩ := List.cons_prefix_cons.mp here
      simp [isTag.space_not_mem]

theorem Delimiter.ne_nil {delimiter : Text} (isDelimiter : Delimiter delimiter) :
    delimiter ≠ [] := by
  cases isDelimiter with
  | tagged opener isTag => simp

end Lexeme
end SqlLexer
