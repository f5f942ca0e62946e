import SqlLexer.Name.Unquote
import SqlLexer.TokenStream.Forward
import SqlLexer.Unicode.Lowercase

/-!
# Qualified names

A name is an identifier, or a schema and an identifier with a dot between them.  Unquoted parts
fold to lower case, keywords included; quoted parts keep their spelling.
-/

namespace SqlLexer

/-- The name of an object, with or without a schema. -/
structure QualifiedName where
  schema : Option Text
  name : Text
deriving DecidableEq

namespace QualifiedName

/-- The name as it is shown. -/
def render (name : QualifiedName) : Text :=
  match name.schema with
  | some schema => schema ++ '.' :: name.name
  | none => name.name

/-- The value of a token that may be part of a name. -/
def partValue? (token : Token) : Option Text :=
  match token.kind with
  | .identifier | .keyword => some (Unicode.lowercase token.text)
  | .quotedIdentifier => some (Name.unquote token.text)
  | _ => none

/-- Takes one part of a name, or fails without moving. -/
def readPart : Reading ParseError Text := do
  match partValue? (← Reading.current) with
  | some value =>
      Reading.move TokenStream.advance
      return value
  | none => Reading.failExpecting "identifier".toList

/-- Takes a dot and the trivia before it, or returns to the trivia. -/
def takeDot : Reading ParseError Bool := do
  let afterPart := (← get).position
  Reading.skipTrivia
  if ← modifyGet fun stream => stream.takeKind .dot then
    return true
  else
    Reading.move fun stream => stream.seek afterPart
    return false

/-- Takes a name and the trivia before it and around its dot.  Trivia after the name stays. -/
def read : Reading ParseError QualifiedName := do
  Reading.skipTrivia
  let first ← readPart
  if ← takeDot then
    Reading.skipTrivia
    let second ← readPart
    return ⟨some first, second⟩
  else
    return ⟨none, first⟩

/-- Without a dot the stream is back where it was. -/
theorem takeDot_eq (stream : TokenStream) :
    takeDot stream =
      if stream.skipTrivia.check .dot then .ok true stream.skipTrivia.advance
      else .ok false (stream.skipTrivia.seek stream.position) := by
  have atDot : takeDot stream =
      (if stream.skipTrivia.check .dot then pure true
      else do
        Reading.move fun ahead => ahead.seek stream.position
        return false : Reading ParseError Bool) (stream.skipTrivia.takeKind .dot).2 :=
    rfl
  rw [atDot, TokenStream.takeKind, TokenStream.takeIf]
  cases stream.skipTrivia.check .dot <;> rfl

theorem forward_readPart : Reading.Forward readPart := by
  unfold readPart
  refine Reading.forward_bind Reading.forward_current fun token => ?_
  split
  · refine Reading.forward_bind (Reading.forward_move TokenStream.leadsTo_advance) fun _ => ?_
    exact Reading.forward_pure _
  · exact Reading.forward_failExpecting _

theorem forward_takeDot : Reading.Forward takeDot := by
  intro stream
  rw [Reading.streamAfter, takeDot_eq]
  cases stream.skipTrivia.check .dot with
  | true => exact stream.leadsTo_skipTrivia.trans (TokenStream.leadsTo_advance _)
  | false => exact stream.leadsTo_skipTrivia.seek_back

/-- Reading a name never moves a stream back. -/
theorem forward_read : Reading.Forward read := by
  unfold read
  refine Reading.forward_bind Reading.forward_skipTrivia fun _ => ?_
  refine Reading.forward_bind forward_readPart fun first => ?_
  refine Reading.forward_bind forward_takeDot fun hasDot => ?_
  split
  · refine Reading.forward_bind Reading.forward_skipTrivia fun _ => ?_
    refine Reading.forward_bind forward_readPart fun second => ?_
    exact Reading.forward_pure _
  · exact Reading.forward_pure _

end QualifiedName

/-- Reads the tokens of a source from the start. -/
def readSource
    {α : Type}
    (reading : Reading ParseError α)
    (source : Text) : Except ReadError α :=
  match TokenStream.ofSource source with
  | .error error => .error (.source error)
  | .ok stream =>
      match reading stream with
      | .ok value _ => .ok value
      | .error error _ => .error (.parse error)

/-- The qualified name at the start of a source. -/
def QualifiedName.ofSource (source : Text) : Except ReadError QualifiedName :=
  readSource QualifiedName.read source

end SqlLexer
