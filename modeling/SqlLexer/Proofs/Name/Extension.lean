import SqlLexer.Proofs.Name.Statement

/-!
# Changes that no declaration shows

A list of tokens may be changed in two ways without a change to what it declares: each token may
be replaced by one that reads the same, and the list may go on with a token that no statement
reaches into.  The grammar finds the same in the changed list and leaves the same tokens, changed
in the same way.
-/

namespace SqlLexer

open Declarations
open QualifiedName (partValue?)

/-- Kinds of tokens that belong neither to a name nor to the words around it. -/
def Kind.EndsStatement (kind : Kind) : Prop :=
  kind ∉ [.keyword, .identifier, .quotedIdentifier, .dot]

/-- What ends a statement is no keyword. -/
theorem Token.isKeywordText_of_endsStatement
    {token : Token}
    (ends : token.kind.EndsStatement)
    (word : Text) :
    token.isKeywordText word = false := by
  have notKeyword : token.kind.isKeyword = false := by
    cases kind : token.kind <;> simp [kind, Kind.EndsStatement] at ends <;> rfl
  rw [isKeywordText, notKeyword, Bool.false_and]

theorem QualifiedName.partValue?_of_endsStatement
    {token : Token}
    (ends : token.kind.EndsStatement) :
    partValue? token = none := by
  unfold partValue?
  cases kind : token.kind <;> simp [kind, Kind.EndsStatement] at ends <;> rfl

/-- A way to change lists of tokens: each token is replaced by one that reads the same, and other
tokens follow of which the first ends every statement. -/
structure Extension where
  view : Token → Token
  tail : List Token
  kind_view : ∀ token, (view token).kind = token.kind
  location_view : ∀ token, (view token).location = token.location
  isKeywordText_view : ∀ token, (view token).isKeywordText = token.isKeywordText
  partValue?_view : ∀ token, partValue? (view token) = partValue? token
  endsStatement_tail : ∀ token ∈ tail.head?, token.kind.EndsStatement

namespace Extension

variable (extension : Extension)

/-- The changed list. -/
def apply (tokens : List Token) : List Token :=
  tokens.map extension.view ++ extension.tail

@[simp] theorem apply_nil : extension.apply [] = extension.tail :=
  rfl

@[simp] theorem apply_cons (token : Token) (rest : List Token) :
    extension.apply (token :: rest) = extension.view token :: extension.apply rest :=
  rfl

/-- Behind the changed tokens there is nothing, or a token that ends every statement. -/
theorem tail_cases :
    extension.tail = [] ∨
      ∃ token rest, extension.tail = token :: rest ∧ token.kind.EndsStatement := by
  have ends := extension.endsStatement_tail
  cases tail : extension.tail with
  | nil => exact .inl rfl
  | cons token rest =>
      rw [tail] at ends
      exact .inr ⟨token, rest, rfl, ends token rfl⟩

section
variable {accepts : Token → Bool}
  (same : ∀ token, accepts (extension.view token) = accepts token)
  (rejects : ∀ token : Token, token.kind.EndsStatement → accepts token = false)
include same rejects

/-- The changed list starts with an accepted token where the list does. -/
theorem behind?_apply (tokens : List Token) :
    behind? accepts (extension.apply tokens) =
      (behind? accepts tokens).map extension.apply := by
  cases tokens with
  | nil =>
      rcases extension.tail_cases with empty | ⟨token, rest, tail, ends⟩
      · rw [apply_nil, empty]
        rfl
      · have nothing : behind? accepts (token :: rest) = none := by
          rw [behind?, rejects token ends]
          rfl
        rw [apply_nil, tail, nothing]
        rfl
  | cons token rest =>
      rw [apply_cons, behind?, behind?, same]
      cases accepts token <;> rfl

theorem dropWhile_apply (tokens : List Token) :
    (extension.apply tokens).dropWhile accepts = extension.apply (tokens.dropWhile accepts) := by
  induction tokens with
  | nil =>
      rw [List.dropWhile_nil, apply_nil]
      rcases extension.tail_cases with empty | ⟨token, rest, tail, ends⟩
      · rw [empty]
        rfl
      · rw [tail]
        exact List.dropWhile_cons_of_neg (by simp [rejects token ends])
  | cons token rest inductionHypothesis =>
      rw [apply_cons, List.dropWhile_cons, List.dropWhile_cons, same]
      cases accepts token with
      | true => exact inductionHypothesis
      | false => rfl

end

theorem keyword_apply (word : Text) (tokens : List Token) :
    behind? (fun token => token.isKeywordText word) (extension.apply tokens) =
      (behind? (fun token => token.isKeywordText word) tokens).map extension.apply := by
  apply extension.behind?_apply
  · intro token
    rw [extension.isKeywordText_view]
  · intro token ends
    exact token.isKeywordText_of_endsStatement ends word

theorem dot_apply (tokens : List Token) :
    behind? (fun token => token.kind = .dot) (extension.apply tokens) =
      (behind? (fun token => token.kind = .dot) tokens).map extension.apply := by
  apply extension.behind?_apply
  · intro token
    rw [extension.kind_view]
  · intro token ends
    rw [decide_eq_false_iff_not]
    intro isDot
    simp [Kind.EndsStatement, isDot] at ends

theorem dropWhile_isOneOf_apply (words : List Text) (tokens : List Token) :
    (extension.apply tokens).dropWhile (isOneOf words) =
      extension.apply (tokens.dropWhile (isOneOf words)) := by
  apply extension.dropWhile_apply
  · intro token
    rw [isOneOf, isOneOf, extension.isKeywordText_view]
  · intro token ends
    simp [isOneOf, token.isKeywordText_of_endsStatement ends]

/-- A part of a name has the same value in the changed list. -/
theorem partAt?_apply (tokens : List Token) :
    partAt? (extension.apply tokens) =
      (partAt? tokens).map fun part => (part.1, extension.apply part.2) := by
  cases tokens with
  | nil =>
      rcases extension.tail_cases with empty | ⟨token, rest, tail, ends⟩
      · rw [apply_nil, empty]
        rfl
      · have nothing : partAt? (token :: rest) = none := by
          rw [partAt?, QualifiedName.partValue?_of_endsStatement ends]
          rfl
        rw [apply_nil, tail, nothing]
        rfl
  | cons token rest =>
      rw [apply_cons, partAt?, partAt?, extension.partValue?_view]
      cases partValue? token <;> rfl

/-! ## Names and statements -/

/-- A name is the same in the changed list and ends at the same token. -/
theorem nameAt?_apply (tokens : List Token) :
    nameAt? (extension.apply tokens) =
      (nameAt? tokens).map fun name => (name.1, extension.apply name.2) := by
  unfold nameAt?
  rw [partAt?_apply]
  cases partAt? tokens with
  | none => rfl
  | some first =>
      dsimp only [Option.map_some, bind, Option.bind_some]
      rw [dot_apply]
      cases behind? (fun token => token.kind = .dot) first.2 with
      | none => rfl
      | some afterDot =>
          dsimp only [Option.map_some]
          rw [partAt?_apply]
          cases partAt? afterDot <;> rfl

/-- A guard ends at the same token in the changed list. -/
theorem afterGuard?_apply (tokens : List Token) :
    afterGuard? (extension.apply tokens) = (afterGuard? tokens).map extension.apply := by
  unfold afterGuard?
  rw [keyword_apply]
  cases behind? (fun token => token.isKeywordText "IF".toList) tokens with
  | none => rfl
  | some afterIf =>
      dsimp only [Option.map_some, bind, Option.bind_some]
      rw [keyword_apply]
      cases behind? (fun token => token.isKeywordText "NOT".toList) afterIf with
      | none => rfl
      | some afterNot => exact extension.keyword_apply "EXISTS".toList afterNot

/-- A target declares the same in the changed list and ends at the same token. -/
theorem targetAt_apply (object : Text) (tokens : List Token) :
    targetAt object (extension.apply tokens) =
      ((targetAt object tokens).1, extension.apply (targetAt object tokens).2) := by
  unfold targetAt
  dsimp only
  rw [dropWhile_isOneOf_apply, afterGuard?_apply]
  generalize tokens.dropWhile (isOneOf DeclaredName.afterObject) = target
  have named : ((afterGuard? target).map extension.apply).getD (extension.apply target) =
      extension.apply ((afterGuard? target).getD target) := by
    cases afterGuard? target <;> rfl
  rw [named, Option.isSome_map, nameAt?_apply]
  generalize (afterGuard? target).getD target = atName
  cases isName : nameAt? atName with
  | none => cases (extension.apply atName).head? <;> cases atName.head? <;> rfl
  | some name =>
      cases atName with
      | nil => cases isName
      | cons first rest =>
          dsimp only [Option.map_some, apply_cons, List.head?_cons]
          rw [extension.location_view]

/-- What is read behind CREATE is the same in the changed list. -/
theorem objectAt_apply (tokens : List Token) :
    objectAt (extension.apply tokens) =
      ((objectAt tokens).1, extension.apply (objectAt tokens).2) := by
  unfold objectAt
  rw [dropWhile_isOneOf_apply]
  cases tokens.dropWhile (isOneOf DeclaredName.modifiers) with
  | nil =>
      rw [apply_nil]
      rcases extension.tail_cases with empty | ⟨token, rest, tail, ends⟩
      · rw [empty]
      · have noObject : DeclaredName.objectKeywords.find? token.isKeywordText = none := by
          rw [List.find?_eq_none]
          intro word _
          simp [token.isKeywordText_of_endsStatement ends]
        rw [tail]
        dsimp only
        rw [noObject]
  | cons token rest =>
      dsimp only [apply_cons]
      rw [extension.isKeywordText_view]
      cases DeclaredName.objectKeywords.find? token.isKeywordText with
      | none => rfl
      | some object => exact extension.targetAt_apply object rest

/-- One step of reading finds the same in the changed list and goes on at the same token. -/
theorem statementAt_apply (token : Token) (rest : List Token) :
    statementAt (extension.view token) (extension.apply rest) =
      ((statementAt token rest).1, extension.apply (statementAt token rest).2) := by
  unfold statementAt
  rw [extension.isKeywordText_view]
  split
  · exact extension.objectAt_apply rest
  · rfl

end Extension

/-- A stream whose tokens ahead are a changed list declares what the list declares, and then what
the tokens declare that the change adds. -/
theorem declaredNames_of_ahead_eq_apply
    (extension : Extension)
    {stream other back : TokenStream}
    (whole : other.ahead = extension.apply stream.ahead)
    (behind : back.ahead = extension.tail) :
    (declaredNames other).1 = (declaredNames stream).1 ++ (declaredNames back).1 := by
  -- The changed list stays a changed list from statement to statement, so both readings go on in
  -- step until the list is read and only the tail is left.
  induction stream using declaredNames_induction generalizing other with
  | done stream nothing noNames =>
      rw [nothing, Extension.apply_nil, ← behind] at whole
      rw [noNames, List.nil_append, declaredNames_eq_of_ahead_eq whole]
  | step stream next token rest ahead nextAhead names inductionHypothesis =>
      rw [ahead, Extension.apply_cons] at whole
      obtain ⟨otherNext, otherAhead, otherNames⟩ := exists_next_of_ahead_eq_cons whole
      rw [extension.statementAt_apply, ← nextAhead] at otherAhead
      rw [extension.statementAt_apply] at otherNames
      rw [otherNames, names, inductionHypothesis otherAhead, List.append_assoc]

/-- Replaced tokens are visible where the tokens themselves are. -/
theorem Extension.visible_map_view (extension : Extension) (tokens : List Token) :
    Token.visible (tokens.map extension.view) = (Token.visible tokens).map extension.view := by
  have sameEnds : (fun token : Token => decide (token.kind ≠ .endOfFile)) ∘ extension.view =
      fun token => decide (token.kind ≠ .endOfFile) := by
    funext token
    rw [Function.comp, extension.kind_view]
  have sameTrivia : (fun token : Token => token.kind.isSignificant) ∘ extension.view =
      fun token => token.kind.isSignificant := by
    funext token
    rw [Function.comp, extension.kind_view]
  unfold Token.visible
  rw [List.takeWhile_map, sameEnds, List.filter_map, sameTrivia]

/-- Tokens that read the same declare the same. -/
theorem declaredNames_map_view
    (extension : Extension)
    (noTail : extension.tail = [])
    (source other : Text)
    (tokens : List Token) :
    (declaredNames (.ofTokens other (tokens.map extension.view))).1 =
      (declaredNames (.ofTokens source tokens)).1 := by
  have whole : (TokenStream.ofTokens other (tokens.map extension.view)).ahead =
      extension.apply (TokenStream.ofTokens source tokens).ahead := by
    rw [TokenStream.ahead_ofTokens, extension.visible_map_view, Extension.apply, noTail,
      List.append_nil, TokenStream.ahead_ofTokens]
  have nothing : (TokenStream.ofTokens [] []).ahead = extension.tail := by
    rw [noTail]
    rfl
  rw [declaredNames_of_ahead_eq_apply _ whole nothing,
    declaredNames_of_ahead_eq_nil (nothing.trans noTail), List.append_nil]

end SqlLexer
