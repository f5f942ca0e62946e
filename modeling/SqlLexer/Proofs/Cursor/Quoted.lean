import SqlLexer.Proofs.Cursor.Remaining
import SqlLexer.Proofs.Lexeme.Doubled

/-!
# Quoted lexemes read by a cursor

A string literal or a quoted identifier is a text between two quotes with its own quotes doubled.
A cursor reads the one such lexeme at the head of what remains, or all that remains where no quote
closes it.
-/

namespace SqlLexer
namespace Lexeme

/-- The forms of quoted lexemes, each with its kind and its quote. -/
inductive Quoting : Form → Kind → Char → Prop
  | stringLiteral : Quoting .stringLiteral .stringLiteral singleQuote
  | quotedIdentifier : Quoting .quotedIdentifier .quotedIdentifier doubleQuote

/-- A text that begins with a content in quotes, closed by a quote that no other one follows. -/
structure IsQuoted (quote : Char) (text content rest : Text) : Prop where
  split : text = quote :: (doubled quote content ++ quote :: rest)
  closes : quote ∉ rest.head?

variable {form : Form} {kind : Kind} {quote : Char} {text content rest : Text}

theorem Quoting.read_eq (quoting : Quoting form kind quote) (text : Text) :
    form.read text = ⟨kind, quoted quote text⟩ := by
  cases quoting <;> rfl

theorem IsQuoted.quoted_eq (isQuoted : IsQuoted quote text content rest) :
    quoted quote text = quote :: (doubled quote content ++ [quote]) := by
  rw [isQuoted.split, quoted_doubled_append isQuoted.closes]

/-- A text is quoted in one way at most. -/
theorem IsQuoted.unique
    {otherContent otherRest : Text}
    (isQuoted : IsQuoted quote text content rest)
    (isOther : IsQuoted quote text otherContent otherRest) :
    content = otherContent ∧ rest = otherRest := by
  have sameQuoted := isQuoted.quoted_eq.symm.trans isOther.quoted_eq
  have sameDoubled := List.append_cancel_right (List.cons.inj sameQuoted).2
  obtain rfl := doubled_injective quote sameDoubled
  have sameText := isQuoted.split.symm.trans isOther.split
  have sameRest := List.append_cancel_left (List.cons.inj sameText).2
  exact ⟨rfl, (List.cons.inj sameRest).2⟩

/-- A text that starts with a quote is quoted, or it is read to its end. -/
theorem isQuoted_or_quoted_eq (quote : Char) (inside : Text) :
    (∃ content rest, IsQuoted quote (quote :: inside) content rest) ∨
      quoted quote (quote :: inside) = quote :: inside := by
  obtain ⟨content, rfl | ⟨after, closes, rfl⟩⟩ := exists_doubled quote inside
  · exact .inr (congrArg (quote :: ·) (quotedBody_doubled_eq quote content))
  · exact .inl ⟨content, after, rfl, closes⟩

end Lexeme

namespace Cursor

open Lexeme (IsQuoted Quoting doubled)

/-- How a cursor reads a text that starts with a quote. -/
structure ReadsQuoted
    (cursor : Cursor)
    (form : Lexeme.Form)
    (kind : Kind)
    (quote : Char) : Prop where
  /-- There is at most one content in quotes at the head of what remains. -/
  unique : ∀ content rest otherContent otherRest : Text,
    IsQuoted quote cursor.remaining content rest →
    IsQuoted quote cursor.remaining otherContent otherRest →
      content = otherContent ∧ rest = otherRest
  /-- A content in quotes is read, and what is behind it remains. -/
  closed : ∀ content rest : Text, IsQuoted quote cursor.remaining content rest →
    cursor.Reads form ⟨kind, quote :: (doubled quote content ++ [quote])⟩ rest
  /-- Without one, all that remains is read. -/
  unclosed : (∀ content rest : Text, ¬IsQuoted quote cursor.remaining content rest) →
    cursor.Reads form ⟨kind, cursor.remaining⟩ []

/-- Where a quote lies ahead, a cursor reads what stands in quotes there, or else all that
remains. -/
theorem readsQuoted_of_startsWith
    {cursor : Cursor}
    {form : Lexeme.Form}
    {kind : Kind}
    {quote : Char}
    (quoting : Quoting form kind quote)
    (opens : cursor.startsWith [quote]) :
    cursor.ReadsQuoted form kind quote where
  unique := fun _ _ _ _ isQuoted isOther => isQuoted.unique isOther
  closed := by
    intro content rest isQuoted
    apply reads_of_eq
    · simp [isQuoted.split]
    · rw [quoting.read_eq, isQuoted.quoted_eq]
  unclosed := by
    intro none
    obtain ⟨inside, ahead⟩ := List.isPrefixOf_iff_prefix.mp opens
    refine reads_of_eq (List.append_nil _).symm ?_
    rw [quoting.read_eq, ← ahead]
    rw [← ahead] at none
    rcases Lexeme.isQuoted_or_quoted_eq quote inside with ⟨content, rest, isQuoted⟩ | whole
    · exact absurd isQuoted (none content rest)
    · exact congrArg (Lexeme.mk kind) whole

/-- Five quotes, a letter and three quotes, of which only the last one closes the string. -/
theorem readsQuoted_of_startsWith_manyQuotes :
    Quoting .stringLiteral .stringLiteral singleQuote ∧
      (start "'''''é'''x'".toList).startsWith [singleQuote] ∧
      (start "'''''é'''x'".toList).ReadsQuoted .stringLiteral .stringLiteral singleQuote := by
  have opens : (start "'''''é'''x'".toList).startsWith [singleQuote] := by decide
  exact ⟨.stringLiteral, opens, readsQuoted_of_startsWith .stringLiteral opens⟩

end Cursor
end SqlLexer
