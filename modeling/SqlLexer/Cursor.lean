import SqlLexer.Lexeme.Form
import SqlLexer.Source
import SqlLexer.Text.Bytes
import SqlLexer.Text.Location
import SqlLexer.Token.Span

/-!
# Cursors over a source

A cursor stands at a byte offset of a source and knows the line and column of that offset.  It
moves forward by consuming characters and anywhere by returning to a mark.  At an offset where
no character starts nothing remains to be read, so such a cursor stays where it is.
-/

namespace SqlLexer

/-- A reading position in a source. -/
structure Cursor where
  source : Text
  offset : Nat
  location : Location
deriving DecidableEq

namespace Cursor

/-- A remembered position, valid for any cursor. -/
structure Mark where
  offset : Nat
  location : Location
deriving DecidableEq

/-- The cursor at the start of a text. -/
def start (source : Text) : Cursor :=
  ⟨source, 0, Location.start⟩

/-- The cursor at the start of a source, unless the source is refused. -/
def ofSource (source : Text) : Except SourceError Cursor := do
  checkSource source
  return start source

/-- Whether no byte of the source lies at or behind the offset. -/
def isAtEnd (cursor : Cursor) : Bool :=
  Text.byteLength cursor.source ≤ cursor.offset

/-- The text that is still to be read. -/
def remaining (cursor : Cursor) : Text :=
  Text.dropBytes cursor.offset cursor.source

/-- The character some places ahead; the null character where nothing is left. -/
def peekAt (cursor : Cursor) (places : Nat) : Char :=
  cursor.remaining[places]?.getD '\x00'

/-- The character under the cursor. -/
def current (cursor : Cursor) : Char :=
  cursor.peekAt 0

/-- The character after the current one. -/
def peek (cursor : Cursor) : Char :=
  cursor.peekAt 1

/-- Whether the text that is still to be read starts with a given text. -/
def startsWith (cursor : Cursor) (text : Text) : Bool :=
  text.isPrefixOf cursor.remaining

/-- The source text between two byte offsets. -/
def slice (cursor : Cursor) (first last : Nat) : Text :=
  Text.slice cursor.source first last

/-- The source text under a span. -/
def spanText (cursor : Cursor) (span : Span) : Text :=
  span.slice cursor.source

/-- The cursor after a text that it has read. -/
def pass (cursor : Cursor) (text : Text) : Cursor :=
  { cursor with
    offset := cursor.offset + Text.byteLength text
    location := cursor.location.walk text }

/-- Consumes one character, if there is one. -/
def advance (cursor : Cursor) : Option Char × Cursor :=
  match cursor.remaining with
  | [] => (none, cursor)
  | c :: _ => (some c, cursor.pass [c])

/-- Consumes a number of characters, or all if there are fewer. -/
def advanceBy (cursor : Cursor) (count : Nat) : Cursor :=
  cursor.pass (cursor.remaining.take count)

/-- Consumes characters as long as they satisfy a condition. -/
def advanceWhile (cursor : Cursor) (condition : Char → Bool) : Cursor :=
  cursor.pass (cursor.remaining.takeWhile condition)

/-- Consumes the lexeme of a given form that lies ahead. -/
def read (cursor : Cursor) (form : Lexeme.Form) : Lexeme × Cursor :=
  let lexeme := form.read cursor.remaining
  (lexeme, cursor.pass lexeme.text)

/-- The position of the cursor, for a later return. -/
def mark (cursor : Cursor) : Mark :=
  ⟨cursor.offset, cursor.location⟩

/-- Returns to a position as it was remembered. -/
def restore (cursor : Cursor) (mark : Mark) : Cursor :=
  { cursor with offset := mark.offset, location := mark.location }

@[simp] theorem pass_nil (cursor : Cursor) : cursor.pass [] = cursor :=
  rfl

theorem pass_append (cursor : Cursor) (first second : Text) :
    cursor.pass (first ++ second) = (cursor.pass first).pass second := by
  simp [pass, Nat.add_assoc]

@[simp] theorem restore_mark (cursor : Cursor) : cursor.restore cursor.mark = cursor :=
  rfl

end Cursor
end SqlLexer
