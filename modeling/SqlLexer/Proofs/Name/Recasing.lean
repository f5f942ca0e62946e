import SqlLexer.Proofs.Name.Extension
import SqlLexer.Proofs.Recasing
import SqlLexer.Proofs.Unicode.Lowercase

/-!
# Declarations in either case

Words count without their case, and the unquoted parts of names fold to lower case.  So a script
declares the same objects under the same names when letters of its keywords and identifiers
change their case.
-/

namespace SqlLexer

open QualifiedName (partValue?)

/-- The kinds of words without quotes. -/
def Kind.bareWords : List Kind :=
  [.keyword, .identifier]

/-- A token without its extent and, unless it is a quoted identifier, without its case. -/
def Token.caseless (token : Token) : Token :=
  ⟨token.kind, ⟨0, 0⟩, token.location,
    if token.kind = .quotedIdentifier then token.text else Word.fold token.text⟩

theorem Token.isKeywordText_caseless (token : Token) :
    token.caseless.isKeywordText = token.isKeywordText := by
  funext word
  unfold caseless isKeywordText
  cases token.kind with
  | keyword => simp
  | _ => rfl

/-- A bare part of a name is folded anyway, so its value does not depend on its case. -/
theorem partValue?_caseless (token : Token) : partValue? token.caseless = partValue? token := by
  unfold Token.caseless partValue?
  cases token.kind with
  | keyword => simp [Unicode.lowercase_fold]
  | identifier => simp [Unicode.lowercase_fold]
  | _ => rfl

/-- Readers of declarations take a token without its case for the token itself. -/
def Extension.caseless : Extension where
  view := Token.caseless
  tail := []
  kind_view _ := rfl
  location_view _ := rfl
  isKeywordText_view := Token.isKeywordText_caseless
  partValue?_view := partValue?_caseless
  endsStatement_tail _ member := absurd member (Option.not_mem_none _)

/-- Tokens that differ in case alone are the same without it. -/
theorem Token.IsRecased.caseless_eq
    {token other : Token}
    (recased : token.IsRecased (· ∉ Kind.bareWords) other) :
    other.caseless = token.caseless := by
  unfold caseless
  rw [recased.kind, recased.location, recased.fold]
  split
  · rename_i isQuoted
    rw [recased.kept (by simp [isQuoted, Kind.bareWords])]
  · rfl

theorem Token.map_caseless_eq
    {tokens others : List Token}
    (recased : List.Forall₂ (IsRecased (· ∉ Kind.bareWords)) tokens others) :
    others.map caseless = tokens.map caseless := by
  induction recased with
  | nil => rfl
  | cons isRecased _ inductionHypothesis =>
      rw [List.map_cons, List.map_cons, isRecased.caseless_eq, inductionHypothesis]

/-- When letters of the keywords and unquoted identifiers of an accepted script change their case,
the script declares the same objects under the same names in the same places. -/
theorem declaredNamesOfSource_recased
    {source changed : Text}
    {names : List DeclaredName}
    (accepted : declaredNamesOfSource source = .ok names)
    (recased : source.IsRecased (· ∉ Kind.bareWords) changed) :
    declaredNamesOfSource changed = .ok names := by
  obtain ⟨solid, same⟩ := (declaredNamesOfSource_eq_ok_iff _ _).mp accepted
  refine (declaredNamesOfSource_eq_ok_iff _ _).mpr
    ⟨exists_solid_of_fold_eq recased.fold solid, ?_⟩
  have sameTokens := Token.map_caseless_eq (tokensOf_recased recased (by simp [Kind.bareWords]))
  have view := declaredNames_map_view Extension.caseless rfl
  calc
    (declaredNames (.ofTokens changed (tokensOf changed))).1 =
        (declaredNames (.ofTokens [] ((tokensOf changed).map Token.caseless))).1 :=
      (view changed [] _).symm
    _ = (declaredNames (.ofTokens [] ((tokensOf source).map Token.caseless))).1 := by
      rw [sameTokens]
    _ = (declaredNames (.ofTokens source (tokensOf source))).1 := view source [] _
    _ = names := same

/-- A schema whose final sigma stands between letters of changing case, a guard, and a table named
like a keyword. -/
theorem declaredNamesOfSource_recased_finalSigma :
    ∃ names : List DeclaredName,
      declaredNamesOfSource "Create Table If nOT exists bAΣ.\"bA\";CREATE TYPE tABLE--A".toList =
        .ok names ∧
      Text.IsRecased (· ∉ Kind.bareWords)
        "Create Table If nOT exists bAΣ.\"bA\";CREATE TYPE tABLE--A".toList
        "cREATE tABLE iF Not EXISTS BaΣ.\"bA\";create type TaBLE--A".toList ∧
      declaredNamesOfSource "cREATE tABLE iF Not EXISTS BaΣ.\"bA\";create type TaBLE--A".toList =
        .ok names := by
  have accepted : declaredNamesOfSource
      "Create Table If nOT exists bAΣ.\"bA\";CREATE TYPE tABLE--A".toList =
      .ok [⟨"TABLE".toList, ⟨some "baς".toList, "bA".toList⟩, true, ⟨1, 28⟩⟩,
        ⟨"TYPE".toList, ⟨none, "table".toList⟩, false, ⟨1, 49⟩⟩] := by
    decide +kernel
  have recased : Text.IsRecased (· ∉ Kind.bareWords)
      "Create Table If nOT exists bAΣ.\"bA\";CREATE TYPE tABLE--A".toList
      "cREATE tABLE iF Not EXISTS BaΣ.\"bA\";create type TaBLE--A".toList :=
    ⟨by decide, by decide +kernel⟩
  exact ⟨_, accepted, recased, declaredNamesOfSource_recased accepted recased⟩

end SqlLexer
