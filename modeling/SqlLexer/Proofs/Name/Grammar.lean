import SqlLexer.Name.Declared

/-!
# The grammar of declarations

What a list of significant tokens declares, told from left to right by functions on lists.  Each
of them returns the tokens to go on with, which are the last ones of its list.
-/

namespace SqlLexer

open QualifiedName (partValue?)

namespace Declarations

/-- The tokens behind the first one, if the first one is accepted. -/
def behind? (accepts : Token → Bool) : List Token → Option (List Token)
  | [] => none
  | token :: rest => if accepts token then some rest else none

/-- The value of a part of a name at the head, and the tokens behind it. -/
def partAt? : List Token → Option (Text × List Token)
  | [] => none
  | token :: rest => (partValue? token).map fun value => (value, rest)

/-- The name at the head, and the tokens behind it: a part that no dot follows, or two parts with
a dot between them. -/
def nameAt? (tokens : List Token) : Option (QualifiedName × List Token) := do
  let (first, afterFirst) ← partAt? tokens
  match behind? (fun token => token.kind = .dot) afterFirst with
  | none => some (⟨none, first⟩, afterFirst)
  | some afterDot =>
      let (second, afterSecond) ← partAt? afterDot
      some (⟨some first, second⟩, afterSecond)

/-- The tokens behind the keywords IF, NOT and EXISTS, if these stand at the head. -/
def afterGuard? (tokens : List Token) : Option (List Token) := do
  let afterIf ← behind? (fun token => token.isKeywordText "IF".toList) tokens
  let afterNot ← behind? (fun token => token.isKeywordText "NOT".toList) afterIf
  behind? (fun token => token.isKeywordText "EXISTS".toList) afterNot

/-- Whether a token is one of several keywords. -/
def isOneOf (words : List Text) (token : Token) : Bool :=
  words.any token.isKeywordText

/-- What follows the kind of object: what is declared, and the tokens to go on with.  Without a
name nothing is declared, and only the guard is passed over. -/
def targetAt (object : Text) (tokens : List Token) : Option DeclaredName × List Token :=
  let target := tokens.dropWhile (isOneOf DeclaredName.afterObject)
  let guard := afterGuard? target
  let named := guard.getD target
  match named.head?, nameAt? named with
  | some first, some (name, rest) =>
      (some ⟨object, name, guard.isSome, first.location⟩, rest)
  | _, _ => (none, named)

/-- What follows the word CREATE: what is declared, and the tokens to go on with.  Without a kind
of object nothing is declared, and only the modifiers are passed over. -/
def objectAt (tokens : List Token) : Option DeclaredName × List Token :=
  match tokens.dropWhile (isOneOf DeclaredName.modifiers) with
  | [] => (none, [])
  | token :: rest =>
      match DeclaredName.objectKeywords.find? token.isKeywordText with
      | some object => targetAt object rest
      | none => (none, token :: rest)

/-! ## The tokens left are the last ones of the list -/

theorem behind?_suffix
    {accepts : Token → Bool}
    {tokens rest : List Token}
    (found : behind? accepts tokens = some rest) :
    rest <:+ tokens := by
  cases tokens with
  | nil => cases found
  | cons token after =>
      rw [behind?] at found
      split at found
      · cases found
        exact List.suffix_cons token _
      · cases found

theorem partAt?_suffix
    {tokens rest : List Token}
    {value : Text}
    (found : partAt? tokens = some (value, rest)) :
    rest <:+ tokens := by
  cases tokens with
  | nil => cases found
  | cons token after =>
      obtain ⟨_, _, same⟩ := Option.map_eq_some_iff.mp found
      cases same
      exact List.suffix_cons token _

/-- A name leaves the end of the list, with its schema or without one. -/
theorem nameAt?_suffix
    {tokens rest : List Token}
    {name : QualifiedName}
    (found : nameAt? tokens = some (name, rest)) :
    rest <:+ tokens := by
  obtain ⟨⟨first, afterFirst⟩, isFirst, found⟩ := Option.bind_eq_some_iff.mp found
  have firstSuffix := partAt?_suffix isFirst
  dsimp only at found
  split at found
  · cases found
    exact firstSuffix
  · rename_i afterDot isDot
    obtain ⟨⟨second, afterSecond⟩, isSecond, found⟩ := Option.bind_eq_some_iff.mp found
    cases found
    exact (partAt?_suffix isSecond).trans ((behind?_suffix isDot).trans firstSuffix)

theorem afterGuard?_suffix
    {tokens rest : List Token}
    (found : afterGuard? tokens = some rest) :
    rest <:+ tokens := by
  obtain ⟨afterIf, isIf, found⟩ := Option.bind_eq_some_iff.mp found
  obtain ⟨afterNot, isNot, found⟩ := Option.bind_eq_some_iff.mp found
  exact (behind?_suffix found).trans ((behind?_suffix isNot).trans (behind?_suffix isIf))

theorem targetAt_suffix (object : Text) (tokens : List Token) :
    (targetAt object tokens).2 <:+ tokens := by
  have target := List.dropWhile_suffix (l := tokens) (isOneOf DeclaredName.afterObject)
  unfold targetAt
  dsimp only
  generalize tokens.dropWhile (isOneOf DeclaredName.afterObject) = behind at target ⊢
  have named : (afterGuard? behind).getD behind <:+ tokens := by
    cases guard : afterGuard? behind with
    | none => exact target
    | some rest => exact (afterGuard?_suffix guard).trans target
  split
  · rename_i isName
    exact (nameAt?_suffix isName).trans named
  · exact named

/-- Whatever is read behind CREATE, the reading goes on within the list. -/
theorem objectAt_suffix (tokens : List Token) : (objectAt tokens).2 <:+ tokens := by
  have behind := List.dropWhile_suffix (l := tokens) (isOneOf DeclaredName.modifiers)
  unfold objectAt
  split
  · exact List.nil_suffix
  · rename_i token rest split
    rw [split] at behind
    split
    · exact (targetAt_suffix _ rest).trans ((List.suffix_cons token rest).trans behind)
    · exact behind

end Declarations

/-- What a list of significant tokens declares. -/
def declarations : List Token → List DeclaredName
  | [] => []
  | token :: rest =>
      if token.isKeywordText "CREATE".toList then
        (Declarations.objectAt rest).1.toList ++ declarations (Declarations.objectAt rest).2
      else declarations rest
termination_by tokens => tokens.length
decreasing_by
  · have shorter := (Declarations.objectAt_suffix rest).length_le
    rw [List.length_cons]
    omega
  · simp

end SqlLexer
