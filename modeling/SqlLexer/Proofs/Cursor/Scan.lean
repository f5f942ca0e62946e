import SqlLexer.Proofs.Cursor.Scan.Dollar
import SqlLexer.Proofs.Cursor.Scan.Enclosed
import SqlLexer.Proofs.Cursor.Scan.Number

/-!
# Scanning step by step

A scanner moves a cursor over a lexeme character by character, looks no further ahead than it has
to, and reports how far the cursor has come.  Wherever it ends, it has passed over the lexeme that
is read from the whole of the remaining text, and it ends at every cursor, except that comments are
looked for without end at an offset within a character.
-/

namespace SqlLexer

/-- Whether the lexemes of a form are comments. -/
def Lexeme.Form.isComment (form : Form) : Bool :=
  form = .lineComment || form = .blockComment

namespace Cursor

open Lexeme

/-! ## Scanners -/

/-- Consumes the lexeme of a given form that lies ahead, step by step. -/
def goOn : Form → Cursor → Part (Kind × Cursor)
  | .lineComment, cursor => (cursor.goOnWhile (· ≠ '\n')).map (Prod.mk .lineComment)
  | .blockComment, cursor =>
      ((cursor.advanceEach 2).goOnThroughComment 0).map (Prod.mk .blockComment)
  | .number, cursor => cursor.goOnNumber.map (Prod.mk .numericLiteral)
  | .operator, cursor =>
      .some (.operator,
        cursor.advanceEach ((longestOperator? cursor.remaining).map List.length |>.getD 1))
  | .stringLiteral, cursor =>
      (cursor.advance.2.goOnThroughQuote singleQuote).map (Prod.mk .stringLiteral)
  | .quotedIdentifier, cursor =>
      (cursor.advance.2.goOnThroughQuote doubleQuote).map (Prod.mk .quotedIdentifier)
  | .dollarQuotedString, cursor => cursor.goOnDollar

/-- The kind of a scanned lexeme and its length in bytes, which is missing if the cursor ends up in
front of where it started. -/
structure Scan where
  kind : Kind
  length : Option Nat
deriving DecidableEq

/-- How many bytes an offset lies behind another one. -/
def distance? (first last : Nat) : Option Nat :=
  if first ≤ last then some (last - first) else none

/-- Consumes the lexeme of a given form and reports it. -/
def scan (form : Form) (cursor : Cursor) : Part (Scan × Cursor) :=
  (cursor.goOn form).map fun (kind, after) => (⟨kind, distance? cursor.offset after.offset⟩, after)

/-! ## Lexemes of every form -/

variable {cursor : Cursor}

theorem advanceEach_longestOperator? (cursor : Cursor) :
    cursor.advanceEach ((longestOperator? cursor.remaining).map List.length |>.getD 1) =
      cursor.pass (operator cursor.remaining).text := by
  rw [advanceEach_eq, advanceBy, operator]
  cases found : longestOperator? cursor.remaining with
  | none => rfl
  | some spelling =>
      have whole := List.prefix_iff_eq_take.mp (longestOperator?_initial found)
      rw [Option.map_some, Option.getD_some, Option.getD_some, ← whole]

/-- A cursor that passes over a text has moved on by the bytes of that text. -/
theorem distance?_pass (cursor : Cursor) (taken : Text) :
    distance? cursor.offset (cursor.pass taken).offset = some (Text.byteLength taken) := by
  change distance? cursor.offset (cursor.offset + Text.byteLength taken) = _
  rw [distance?, if_pos (Nat.le_add_right _ _), Nat.add_sub_cancel_left]

/-- A scanner comes to its end where the lexeme of its form ends, unless it is one for comments
that stands within a character. -/
theorem goOn_eq
    {form : Form}
    (steady : form.isComment → cursor.IsSteady) :
    cursor.goOn form =
      .some ((form.read cursor.remaining).kind, (cursor.read form).2) := by
  cases form with
  | lineComment =>
      rw [goOn, goOnWhile_eq fun _ => steady rfl, Part.map_some]
      rfl
  | blockComment =>
      rw [goOn, advanceEach_eq, goOnThroughComment_eq 0 (isSteady_advanceBy 2 (steady rfl)),
        remaining_advanceBy, advanceBy, ← pass_append, Part.map_some]
      rfl
  | number =>
      rw [goOn, goOnNumber_eq, Part.map_some]
      rfl
  | operator =>
      rw [goOn, advanceEach_longestOperator?]
      rfl
  | stringLiteral =>
      rw [goOn, goOn_quoted (by decide), Part.map_some]
      rfl
  | quotedIdentifier =>
      rw [goOn, goOn_quoted (by decide), Part.map_some]
      rfl
  | dollarQuotedString => exact cursor.goOnDollar_eq

/-- A scanner reads the lexeme of its form and reports its kind and how many bytes it has. -/
theorem scan_eq
    {form : Form}
    (steady : form.isComment → cursor.IsSteady) :
    cursor.scan form =
      .some
        (⟨(form.read cursor.remaining).kind,
            some (Text.byteLength (form.read cursor.remaining).text)⟩,
          (cursor.read form).2) := by
  rw [scan, goOn_eq steady, Part.map_some, read]
  dsimp only
  rw [distance?_pass]

/-- A scanner of comments does not end within a character. -/
theorem scan_eq_none
    {form : Form}
    (isComment : form.isComment)
    (unsteady : ¬cursor.IsSteady) :
    cursor.scan form = .none := by
  have endless : cursor.goOn form = .none := by
    cases form with
    | lineComment =>
        rw [goOn, goOnWhile_eq_none (by decide) unsteady, Part.map_none]
    | blockComment =>
        have stays : cursor.advanceEach 2 = cursor := by
          rw [advanceEach, advance_of_eq_nil (Classical.not_imp.mp unsteady).1]
        rw [goOn, stays, goOnThroughComment_eq_none 0 unsteady, Part.map_none]
    | _ => cases isComment
  rw [scan, endless, Part.map_none]

/-- A scanner ends, unless it looks for the end of a comment from within a character. -/
theorem scan_dom_iff (form : Form) (cursor : Cursor) :
    (cursor.scan form).Dom ↔ (form.isComment → cursor.IsSteady) := by
  constructor
  · intro ends isComment
    by_contra unsteady
    rw [scan_eq_none isComment unsteady] at ends
    exact ends
  · intro steady
    rw [scan_eq steady]
    trivial

end Cursor
end SqlLexer
