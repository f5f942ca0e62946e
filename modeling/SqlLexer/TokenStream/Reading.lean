import SqlLexer.TokenStream.Skip

/-!
# Readings of a token stream

A reading takes tokens from a stream and yields a value or fails.  A failed reading leaves the
stream where it stopped, unless it was only attempted: then the stream returns to where the
attempt began.
-/

namespace SqlLexer

/-- A computation over a token stream that may fail with an `ε`. -/
abbrev Reading (ε α : Type) :=
  EStateM ε TokenStream α

namespace Reading

/-- The token at the position. -/
def current {ε : Type} : Reading ε Token := do
  return (← get).current

/-- Moves the stream. -/
def move {ε : Type} (change : TokenStream → TokenStream) : Reading ε Unit :=
  modify change

/-- Takes the current token. -/
def advance {ε : Type} : Reading ε Token := do
  let token ← current
  move TokenStream.advance
  return token

/-- Passes over whitespace and comments. -/
def skipTrivia {ε : Type} : Reading ε Unit :=
  move TokenStream.skipTrivia

/-- Fails because the current token is not what was expected. -/
def failExpecting {α : Type} (expected : Text) : Reading ParseError α := do
  throw ((← get).unexpected expected)

/-- Takes a token of the given kind, or fails without moving. -/
def expect (kind : Kind) : Reading ParseError Token := do
  if (← get).check kind then advance
  else failExpecting kind.description.toList

/-- Takes the given keyword, or fails without moving. -/
def expectKeyword (word : Text) : Reading ParseError Token := do
  if (← get).checkKeyword word then advance
  else failExpecting word

/-- Runs a reading and returns to the starting position if it fails. -/
def attempt {ε α : Type} (reading : Reading ε α) : Reading ε α := fun stream =>
  match reading stream with
  | .ok value ahead => .ok value ahead
  | .error error stopped => .error error (stopped.seek stream.position)

end Reading
end SqlLexer
