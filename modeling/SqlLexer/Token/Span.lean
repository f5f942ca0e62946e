import SqlLexer.Text.Bytes

/-!
# Spans

A span is a stretch of bytes in a source text.
-/

namespace SqlLexer

/-- The `length` bytes from the byte offset `start` on. -/
structure Span where
  start : Nat
  length : Nat
deriving DecidableEq

namespace Span

/-- The offset just past the span. -/
def stop (span : Span) : Nat :=
  span.start + span.length

/-- Whether the span has no bytes. -/
def isEmpty (span : Span) : Bool :=
  span.length == 0

/-- Whether the byte at an offset lies in the span. -/
def contains (span : Span) (offset : Nat) : Bool :=
  span.start ≤ offset && offset < span.stop

/-- The text of a source under the span, or nothing where the span does not fit the source. -/
def slice (span : Span) (source : Text) : Text :=
  Text.slice source span.start span.stop

/-- Both ends of the span, as a reader sees them. -/
def render (span : Span) : Text :=
  Text.decimal span.start ++ "..".toList ++ Text.decimal span.stop

end Span
end SqlLexer
