import Mathlib.Data.List.Forall2
import SqlLexer.Proofs.Name.Extension

/-!
# What declarations do not depend on

Of a token that is no word, only the kind and the place can show in the declarations, and of
whitespace and comments nothing can.
-/

namespace SqlLexer

open QualifiedName (partValue?)

/-- The kinds of tokens whose text is read: words, quoted or not. -/
def Kind.words : List Kind :=
  [.keyword, .identifier, .quotedIdentifier]

/-- Tokens of one kind at one place, with the same text if they are words. -/
structure Token.Agrees (first second : Token) : Prop where
  kind : first.kind = second.kind
  location : first.location = second.location
  text : first.kind ∈ Kind.words → first.text = second.text

instance (first second : Token) : Decidable (first.Agrees second) :=
  decidable_of_iff
    (first.kind = second.kind ∧ first.location = second.location ∧
      (first.kind ∈ Kind.words → first.text = second.text))
    ⟨fun ⟨kind, location, text⟩ => ⟨kind, location, text⟩,
      fun ⟨kind, location, text⟩ => ⟨kind, location, text⟩⟩

/-- A token without its extent and, unless it is a word, without its text. -/
def Token.outline (token : Token) : Token :=
  ⟨token.kind, ⟨0, 0⟩, token.location, if token.kind ∈ Kind.words then token.text else []⟩

/-- Readers of declarations take an outline for the token itself. -/
def Extension.outline : Extension where
  view := Token.outline
  tail := []
  kind_view _ := rfl
  location_view _ := rfl
  isKeywordText_view token := by
    funext word
    unfold Token.outline Token.isKeywordText
    cases token.kind <;> rfl
  partValue?_view token := by
    unfold Token.outline partValue?
    cases token.kind <;> rfl
  endsStatement_tail := by simp

/-- Tokens that agree have one outline. -/
theorem Token.Agrees.outline_eq
    {first second : Token}
    (agrees : first.Agrees second) :
    first.outline = second.outline := by
  unfold outline
  rw [← agrees.kind, ← agrees.location]
  split
  · rw [agrees.text ‹_›]
  · rfl

theorem Token.map_outline_eq
    {tokens others : List Token}
    (agree : List.Forall₂ Agrees tokens others) :
    tokens.map outline = others.map outline := by
  induction agree with
  | nil => rfl
  | cons agrees _ inductionHypothesis =>
      rw [List.map_cons, List.map_cons, agrees.outline_eq, inductionHypothesis]

theorem Token.visible_map_outline (tokens : List Token) :
    visible (tokens.map outline) = (visible tokens).map outline :=
  Extension.outline.visible_map_view tokens

/-- Outlines declare what the tokens themselves declare. -/
theorem declaredNames_map_outline (source : Text) (tokens : List Token) :
    (declaredNames (.ofTokens [] (tokens.map Token.outline))).1 =
      (declaredNames (.ofTokens source tokens)).1 :=
  declaredNames_map_view Extension.outline rfl source [] tokens

/-- Token lists whose tokens agree one by one, apart from trivia and as far as the first end mark
if there is one, declare the same names, with or without a schema, at the same places. -/
theorem declaredNames_eq_of_agrees
    {source other : Text}
    {tokens others : List Token}
    (agree : List.Forall₂ Token.Agrees (Token.visible tokens) (Token.visible others)) :
    (declaredNames (.ofTokens source tokens)).1 = (declaredNames (.ofTokens other others)).1 := by
  have sameAhead : (TokenStream.ofTokens [] (tokens.map Token.outline)).ahead =
      (TokenStream.ofTokens [] (others.map Token.outline)).ahead := by
    rw [TokenStream.ahead_ofTokens, TokenStream.ahead_ofTokens, Token.visible_map_outline,
      Token.visible_map_outline, Token.map_outline_eq agree]
  calc
    (declaredNames (.ofTokens source tokens)).1 =
        (declaredNames (.ofTokens [] (tokens.map Token.outline))).1 :=
      (declaredNames_map_outline source tokens).symm
    _ = (declaredNames (.ofTokens [] (others.map Token.outline))).1 :=
      declaredNames_eq_of_ahead_eq sameAhead
    _ = (declaredNames (.ofTokens other others)).1 :=
      declaredNames_map_outline other others

/-- Other trivia, another string and no end mark. -/
theorem declaredNames_eq_of_agrees_withoutMark :
    List.Forall₂ Token.Agrees
      (Token.visible (tokensOf "CREATE    VIEW IF\nNOT EXISTS a  .\"b\" '-'".toList))
      (Token.visible (tokensOf "CREATE/**/VIEW IF\nNOT EXISTS a\t\t.\"b\" '\"'".toList).dropLast) ∧
    (declaredNames (.ofTokens []
      (tokensOf "CREATE    VIEW IF\nNOT EXISTS a  .\"b\" '-'".toList))).1 =
      (declaredNames (.ofTokens []
        (tokensOf "CREATE/**/VIEW IF\nNOT EXISTS a\t\t.\"b\" '\"'".toList).dropLast)).1 := by
  have agree : List.Forall₂ Token.Agrees
      (Token.visible (tokensOf "CREATE    VIEW IF\nNOT EXISTS a  .\"b\" '-'".toList))
      (Token.visible
        (tokensOf "CREATE/**/VIEW IF\nNOT EXISTS a\t\t.\"b\" '\"'".toList).dropLast) := by
    decide +kernel
  exact ⟨agree, declaredNames_eq_of_agrees agree⟩

end SqlLexer
