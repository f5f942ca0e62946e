import SqlLexer.Name.Qualified

/-!
# Declared names

The objects that a script creates: the word CREATE, any modifiers, the kind of object, an
optional guard IF NOT EXISTS and a name.  A statement without a readable name declares nothing,
and what follows it is looked at all the same.
-/

namespace SqlLexer

/-- An object introduced by a CREATE statement, and where its name stands. -/
structure DeclaredName where
  object : Text
  name : QualifiedName
  ifNotExists : Bool
  location : Location
deriving DecidableEq

namespace DeclaredName

/-- The kinds of objects that are reported. -/
def objectKeywords : List Text :=
  ["TABLE", "VIEW", "FUNCTION", "PROCEDURE", "TYPE", "DOMAIN", "INDEX", "SEQUENCE", "TRIGGER",
    "SCHEMA", "EXTENSION"].map String.toList

/-- The words between CREATE and the kind of object. -/
def modifiers : List Text :=
  ["OR", "REPLACE", "UNIQUE", "TEMP", "TEMPORARY", "UNLOGGED", "MATERIALIZED", "GLOBAL",
    "LOCAL", "CONSTRAINT", "RECURSIVE"].map String.toList

/-- The words after the kind of object. -/
def afterObject : List Text :=
  ["CONCURRENTLY".toList]

/-- Takes the guard IF NOT EXISTS. -/
def readGuard : Reading ParseError Unit := do
  Reading.skipTrivia
  let _ ← Reading.expectKeyword "IF".toList
  Reading.skipTrivia
  let _ ← Reading.expectKeyword "NOT".toList
  Reading.skipTrivia
  let _ ← Reading.expectKeyword "EXISTS".toList
  return ()

/-- Whether a reading can be made, and the stream after the attempt. -/
def tryRead
    {α : Type}
    (reading : Reading ParseError α)
    (stream : TokenStream) : Option α × TokenStream :=
  match Reading.attempt reading stream with
  | .ok value ahead => (some value, ahead)
  | .error _ ahead => (none, ahead)

/-- Takes what follows the kind of object: the guard and the name. -/
def readTarget (object : Text) (stream : TokenStream) : Option DeclaredName × TokenStream :=
  let (guard, afterGuard) := tryRead readGuard (stream.skipKeywords afterObject)
  let atName := afterGuard.skipTrivia
  let (name, ahead) := tryRead QualifiedName.read atName
  (name.map (⟨object, ·, guard.isSome, atName.current.location⟩), ahead)

/-- Takes what follows CREATE. -/
def readObject (stream : TokenStream) : Option DeclaredName × TokenStream :=
  let atObject := stream.skipKeywords modifiers
  match objectKeywords.find? atObject.checkKeyword with
  | some object => readTarget object atObject.advance
  | none => (none, atObject)

/-! ## Reading a declaration moves forward -/

theorem snd_tryRead
    {α : Type}
    (reading : Reading ParseError α)
    (stream : TokenStream) :
    (tryRead reading stream).2 = Reading.streamAfter (Reading.attempt reading) stream := by
  unfold tryRead Reading.streamAfter
  cases Reading.attempt reading stream <;> rfl

theorem leadsTo_tryRead
    {α : Type}
    {reading : Reading ParseError α}
    (forward : Reading.Forward reading)
    (stream : TokenStream) :
    stream.LeadsTo (tryRead reading stream).2 := by
  rw [snd_tryRead]
  exact Reading.forward_attempt forward stream

theorem forward_readGuard : Reading.Forward readGuard := by
  unfold readGuard
  refine Reading.forward_bind Reading.forward_skipTrivia fun _ => ?_
  refine Reading.forward_bind (Reading.forward_expectKeyword _) fun _ => ?_
  refine Reading.forward_bind Reading.forward_skipTrivia fun _ => ?_
  refine Reading.forward_bind (Reading.forward_expectKeyword _) fun _ => ?_
  refine Reading.forward_bind Reading.forward_skipTrivia fun _ => ?_
  refine Reading.forward_bind (Reading.forward_expectKeyword _) fun _ => ?_
  exact Reading.forward_pure ()

theorem leadsTo_readTarget (object : Text) (stream : TokenStream) :
    stream.LeadsTo (readTarget object stream).2 := by
  unfold readTarget
  dsimp only
  exact (TokenStream.leadsTo_skipKeywords afterObject stream).trans <|
    (leadsTo_tryRead forward_readGuard _).trans <|
      (TokenStream.leadsTo_skipTrivia _).trans <|
        leadsTo_tryRead QualifiedName.forward_read _

theorem leadsTo_readObject (stream : TokenStream) :
    stream.LeadsTo (readObject stream).2 := by
  unfold readObject
  dsimp only
  split
  · exact (TokenStream.leadsTo_skipKeywords modifiers stream).trans <|
      (TokenStream.leadsTo_advance _).trans <| leadsTo_readTarget _ _
  · exact TokenStream.leadsTo_skipKeywords modifiers stream

end DeclaredName

/-- The objects that the tokens from the position on declare, and the stream at its first end
mark. -/
def declaredNames (stream : TokenStream) : List DeclaredName × TokenStream :=
  if stream.skipTrivia.check .endOfFile then ([], stream.skipTrivia)
  else if stream.skipTrivia.checkKeyword "CREATE".toList then
    let declaration := DeclaredName.readObject stream.skipTrivia.advance
    let others := declaredNames declaration.2
    (declaration.1.toList ++ others.1, others.2)
  else declaredNames stream.skipTrivia.advance
termination_by stream.tokensLeft
decreasing_by
  · rename_i notEnd _
    have positive : 0 < stream.skipTrivia.tokensLeft :=
      TokenStream.tokensLeft_pos (by simpa [TokenStream.check] using notEnd)
    have ahead := TokenStream.tokensLeft_skipTrivia_le stream
    have onward := (DeclaredName.leadsTo_readObject stream.skipTrivia.advance).tokensLeft_le
    rw [TokenStream.tokensLeft_advance] at onward
    omega
  · rename_i notEnd _
    have positive : 0 < stream.skipTrivia.tokensLeft :=
      TokenStream.tokensLeft_pos (by simpa [TokenStream.check] using notEnd)
    have ahead := TokenStream.tokensLeft_skipTrivia_le stream
    rw [TokenStream.tokensLeft_advance]
    omega

/-- The objects that a script declares, unless the script is refused. -/
def declaredNamesOfSource (source : Text) : Except SourceError (List DeclaredName) := do
  let stream ← TokenStream.ofSource source
  return (declaredNames stream).1

end SqlLexer
