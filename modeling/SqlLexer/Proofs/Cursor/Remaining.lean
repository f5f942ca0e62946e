import SqlLexer.Cursor

/-!
# What remains after reading

A cursor that passes over the beginning of what remains has the end of it before itself.  This
holds of every cursor, wherever its offset comes from, because nothing remains at an offset where
no character starts.
-/

namespace SqlLexer
namespace Text

/-- A text is split only between two of its characters or at one of its ends. -/
theorem splitAtByte?_eq_some_iff
    (offset : Nat)
    (text before after : Text) :
    splitAtByte? offset text = some (before, after) ↔
      text = before ++ after ∧ offset = byteLength before := by
  constructor
  · intro split
    fun_induction splitAtByte? offset text generalizing before after with
    | case1 text =>
        cases split
        exact ⟨rfl, rfl⟩
    | case2 => cases split
    | case3 offset c rest fits inductionHypothesis =>
        rw [Option.map_eq_some_iff] at split
        obtain ⟨⟨first, second⟩, found, same⟩ := split
        cases same
        obtain ⟨rfl, size⟩ := inductionHypothesis _ _ found
        refine ⟨rfl, ?_⟩
        rw [byteLength_cons]
        omega
    | case4 => cases split
  · rintro ⟨rfl, rfl⟩
    exact splitAtByte?_append before after

end Text

namespace Cursor

/-- A cursor with text before it stands between two parts of its source. -/
theorem exists_source_eq
    {cursor : Cursor}
    (nonempty : cursor.remaining ≠ []) :
    ∃ before, cursor.source = before ++ cursor.remaining ∧
      cursor.offset = Text.byteLength before := by
  cases split : Text.splitAtByte? cursor.offset cursor.source with
  | none => simp [remaining, Text.dropBytes, split] at nonempty
  | some parts =>
      obtain ⟨before, after⟩ := parts
      have isAfter : cursor.remaining = after := by rw [remaining, Text.dropBytes, split]
      rw [isAfter]
      exact ⟨before, (Text.splitAtByte?_eq_some_iff _ _ _ _).mp split⟩

/-- Reading takes away what was read and nothing else. -/
theorem remaining_pass
    {cursor : Cursor}
    {taken rest : Text}
    (split : cursor.remaining = taken ++ rest) :
    (cursor.pass taken).remaining = rest := by
  by_cases atEnd : cursor.remaining = []
  · rw [atEnd] at split
    obtain ⟨rfl, rfl⟩ := List.append_eq_nil_iff.mp split.symm
    exact atEnd
  · obtain ⟨before, source, offset⟩ := exists_source_eq atEnd
    have passed : (cursor.pass taken).offset = Text.byteLength (before ++ taken) := by
      rw [Text.byteLength_append, ← offset]
      rfl
    have sameSource : (cursor.pass taken).source = (before ++ taken) ++ rest := by
      rw [List.append_assoc, ← split]
      exact source
    rw [remaining, passed, sameSource, Text.dropBytes_append]

/-- A cursor passes over the lexeme that it reads. -/
theorem read_eq
    {cursor : Cursor}
    {form : Lexeme.Form}
    {lexeme : Lexeme}
    (isLexeme : form.read cursor.remaining = lexeme) :
    cursor.read form = (lexeme, cursor.pass lexeme.text) := by
  rw [read, isLexeme]

/-- A cursor that reads a lexeme of a form: the lexeme lies at the head of what remains, the cursor
passes over it, and the rest remains. -/
structure Reads (cursor : Cursor) (form : Lexeme.Form) (lexeme : Lexeme) (rest : Text) : Prop where
  ahead : cursor.remaining = lexeme.text ++ rest
  read_eq : cursor.read form = (lexeme, cursor.pass lexeme.text)
  remaining_eq : (cursor.pass lexeme.text).remaining = rest

theorem reads_of_eq
    {cursor : Cursor}
    {form : Lexeme.Form}
    {lexeme : Lexeme}
    {rest : Text}
    (ahead : cursor.remaining = lexeme.text ++ rest)
    (isLexeme : form.read cursor.remaining = lexeme) :
    cursor.Reads form lexeme rest :=
  ⟨ahead, read_eq isLexeme, remaining_pass ahead⟩

end Cursor
end SqlLexer
