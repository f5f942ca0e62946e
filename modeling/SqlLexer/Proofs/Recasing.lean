import Mathlib.Data.List.Forall2
import SqlLexer.Proofs.Lexeme.LetterCase
import SqlLexer.Proofs.Lexeme.Sequence
import SqlLexer.Proofs.Placement

/-!
# Sources with letters in another case

Letters of a source may change their case without a change to where its tokens lie and what kinds
they are.  Only the letters of dollar-quoted strings count, since such a string ends where its
delimiter comes back as it was.
-/

namespace SqlLexer

open Lexeme (First IsLexed next first_next concatText)

/-- A lexeme with the case of some ASCII letters changed, unless its kind is fixed. -/
structure Lexeme.IsRecased (fixed : Kind → Prop) (piece other : Lexeme) : Prop where
  kind : other.kind = piece.kind
  fold : Word.fold other.text = Word.fold piece.text
  kept : fixed piece.kind → other.text = piece.text

/-- A token in its place with the case of some ASCII letters changed, unless its kind is
fixed. -/
structure Token.IsRecased (fixed : Kind → Prop) (token other : Token) : Prop where
  kind : other.kind = token.kind
  span : other.span = token.span
  location : other.location = token.location
  fold : Word.fold other.text = Word.fold token.text
  kept : fixed token.kind → other.text = token.text

/-- A source with the case of some ASCII letters changed, none of them in a token of a fixed
kind: each of these tokens still stands in its place as it was. -/
structure Text.IsRecased (fixed : Kind → Prop) (source changed : Text) : Prop where
  fold : Word.fold changed = Word.fold source
  kept : ∀ token ∈ tokensOf source, fixed token.kind → token.span.slice changed = token.text

variable {fixed : Kind → Prop}

/-! ## Rows of lexemes -/

/-- Two lexemes with the same fold at the head of one text are one. -/
theorem Lexeme.eq_of_fold_eq
    {text : Text}
    {piece other : Lexeme}
    (same : piece.fold = other.fold)
    (isFirst : piece.text <+: text)
    (isOther : other.text <+: text) :
    piece = other := by
  have sameLength : piece.text.length = other.text.length :=
    Word.length_eq_of_fold_eq (congrArg Lexeme.text same)
  have sameText := (List.prefix_of_prefix_length_le isFirst isOther sameLength.le).eq_of_length
    sameLength
  have sameKind : piece.fold.kind = other.fold.kind := congrArg Lexeme.kind same
  exact Lexeme.ext sameKind sameText

theorem Lexeme.IsRecased.eq_of_fixed
    {piece other : Lexeme}
    (recased : piece.IsRecased fixed other)
    (isFixed : fixed piece.kind) :
    other = piece :=
  Lexeme.ext recased.kind (recased.kept isFixed)

/-- A first lexeme stays the first when it and what follows it are recased, as long as
dollar-quoted strings are not. -/
theorem Lexeme.First.recase
    (dollarFixed : fixed .dollarQuotedString)
    {piece other : Lexeme}
    {after otherAfter : Text}
    (first : First (piece.text ++ after) piece)
    (recased : piece.IsRecased fixed other)
    (sameAfter : Word.fold otherAfter = Word.fold after) :
    First (other.text ++ otherAfter) other := by
  by_cases isDollar : piece.kind = .dollarQuotedString
  · rw [recased.eq_of_fixed (isDollar ▸ dollarFixed)]
    refine first.replace_of_dollar isDollar ?_
    rintro rfl
    exact List.map_eq_nil_iff.mp sameAfter
  · -- Both texts have one fold, and elsewhere the first lexeme of a text is known from its fold.
    have sameFold : Word.fold (other.text ++ otherAfter) = Word.fold (piece.text ++ after) := by
      rw [Word.fold_append, Word.fold_append, recased.fold, sameAfter]
    have folded := first.fold isDollar
    rw [← sameFold] at folded
    have nonempty : other.text ++ otherAfter ≠ [] := by
      intro empty
      rw [empty] at sameFold
      have nothing : piece.text ++ after = [] := List.map_eq_nil_iff.mp sameFold.symm
      exact first.text_ne_nil (List.append_eq_nil_iff.mp nothing).1
    obtain ⟨c, rest, split⟩ := List.exists_cons_of_ne_nil nonempty
    rw [split] at folded ⊢
    have isNext := first_next c rest
    have noDollar : (next (c :: rest)).kind ≠ .dollarQuotedString := by
      intro isString
      have still := isNext.kind_next_fold isString
      rw [folded.next_eq] at still
      exact isDollar still
    have sameNext : (next (c :: rest)).fold = other.fold := by
      rw [← (isNext.fold noDollar).next_eq, folded.next_eq, Lexeme.fold, Lexeme.fold, recased.kind,
        recased.fold]
    have isOther : other.text <+: c :: rest := ⟨otherAfter, split⟩
    rw [Lexeme.eq_of_fold_eq sameNext isNext.text_initial isOther] at isNext
    exact isNext

/-- Lexemes that are recased spell a text that is recased. -/
theorem Lexeme.fold_concatText
    {pieces others : List Lexeme}
    (recased : List.Forall₂ (Lexeme.IsRecased fixed) pieces others) :
    Word.fold (concatText others) = Word.fold (concatText pieces) := by
  induction recased with
  | nil => rfl
  | cons isRecased _ inductionHypothesis =>
      rw [concatText_cons, concatText_cons, Word.fold_append, Word.fold_append, isRecased.fold,
        inductionHypothesis]

/-- Recased lexemes are found again in the text that they spell, since each scanner stops at the
same place in either case. -/
theorem Lexeme.IsLexed.recase
    (dollarFixed : fixed .dollarQuotedString)
    {pieces others : List Lexeme}
    (lexed : IsLexed pieces)
    (recased : List.Forall₂ (Lexeme.IsRecased fixed) pieces others) :
    IsLexed others := by
  induction recased with
  | nil => exact .nil
  | cons isRecased rest inductionHypothesis =>
      obtain ⟨first, lexed⟩ := (Lexeme.isLexed_cons_iff _ _).mp lexed
      exact .cons (first.recase dollarFixed isRecased (Lexeme.fold_concatText rest))
        (inductionHypothesis lexed)

/-! ## Tokens in their places -/

/-- A changed text falls into recased lexemes, where those of fixed kinds are still in their
places. -/
theorem exists_recased_of_kept
    (before : Text)
    {changed : Text}
    {location : Location}
    {pieces : List Lexeme}
    (sameFold : Word.fold changed = Word.fold (concatText pieces))
    (kept : ∀ token ∈ placeLexemes before.byteLength location pieces,
      fixed token.kind → token.span.slice (before ++ changed) = token.text) :
    ∃ others, concatText others = changed ∧
      List.Forall₂ (Lexeme.IsRecased fixed) pieces others := by
  induction pieces generalizing before changed location with
  | nil => exact ⟨[], (List.map_eq_nil_iff.mp sameFold).symm, .nil⟩
  | cons piece rest inductionHypothesis =>
      rw [Lexeme.concatText_cons, Word.fold_append] at sameFold
      obtain ⟨front, back, rfl, sameFront, sameBack⟩ := List.map_eq_append_iff.mp sameFold
      change Word.fold front = Word.fold piece.text at sameFront
      -- The changed part joins the text in front, so that the later spans keep their bytes.
      have sameSize : Text.byteLength front = Text.byteLength piece.text := by
        rw [← Text.byteLength_fold front, sameFront, Text.byteLength_fold]
      rw [placeLexemes_cons, List.forall_mem_cons, ← sameSize, ← Text.byteLength_append] at kept
      obtain ⟨keptPiece, keptRest⟩ := kept
      rw [← List.append_assoc] at keptRest
      obtain ⟨others, spelled, recased⟩ := inductionHypothesis (before ++ front) sameBack keptRest
      have isRecased : piece.IsRecased fixed ⟨piece.kind, front⟩ := by
        refine ⟨rfl, sameFront, fun isFixed => ?_⟩
        exact (Text.slice_append before front back).symm.trans (keptPiece isFixed)
      refine ⟨⟨piece.kind, front⟩ :: others, ?_, .cons isRecased recased⟩
      rw [Lexeme.concatText_cons, spelled]

/-- Recased lexemes stand at the places of the others, as case changes neither bytes nor lines. -/
theorem placeLexemes_recased
    {pieces others : List Lexeme}
    (recased : List.Forall₂ (Lexeme.IsRecased fixed) pieces others)
    (offset : Nat)
    (location : Location) :
    List.Forall₂ (Token.IsRecased fixed) (placeLexemes offset location pieces)
      (placeLexemes offset location others) := by
  induction recased generalizing offset location with
  | nil => exact .cons ⟨rfl, rfl, rfl, rfl, fun _ => rfl⟩ .nil
  | @cons piece other _ _ isRecased _ inductionHypothesis =>
      have sameSize : Text.byteLength other.text = Text.byteLength piece.text := by
        rw [← Text.byteLength_fold, isRecased.fold, Text.byteLength_fold]
      have samePlace : location.walk other.text = location.walk piece.text := by
        rw [← Location.walk_fold, isRecased.fold, Location.walk_fold]
      rw [placeLexemes_cons, placeLexemes_cons, sameSize, samePlace]
      exact .cons ⟨isRecased.kind, rfl, rfl, isRecased.fold, isRecased.kept⟩
        (inductionHypothesis _ _)

/-- Recased sources have recased tokens, as long as dollar-quoted strings stay as they are. -/
theorem tokensOf_recased
    {source changed : Text}
    (recased : source.IsRecased fixed changed)
    (dollarFixed : fixed .dollarQuotedString) :
    List.Forall₂ (Token.IsRecased fixed) (tokensOf source) (tokensOf changed) := by
  have sameFold := recased.fold
  rw [← concatText_lexemes source] at sameFold
  obtain ⟨others, rfl, isRecased⟩ := exists_recased_of_kept [] sameFold recased.kept
  have lexed := (Lexeme.isLexed_lexemes source).recase dollarFixed isRecased
  rw [tokensOf, tokensOf, lexed.lexemes_concatText]
  exact placeLexemes_recased isRecased 0 Location.start

/-- The case of letters decides nothing about whether a source is accepted. -/
theorem exists_solid_of_fold_eq
    {source changed : Text}
    (sameFold : Word.fold changed = Word.fold source)
    (solid : ∃ c ∈ source, isWhitespace c = false) :
    ∃ c ∈ changed, isWhitespace c = false := by
  obtain ⟨c, member, notSpace⟩ := solid
  have inFold : c.toUpper ∈ Word.fold changed := by
    rw [sameFold]
    exact List.mem_map_of_mem member
  obtain ⟨d, isMember, sameUpper⟩ := List.mem_map.mp inFold
  refine ⟨d, isMember, ?_⟩
  rw [← Word.isWhitespace_toUpper, sameUpper, Word.isWhitespace_toUpper, notSpace]

/-- When letters of an accepted source change their case outside of dollar-quoted strings, the
source has as many tokens as before, of the same kinds and in the same places. -/
theorem tokenize_recased
    {source changed : Text}
    {tokens : List Token}
    (accepted : tokenize source = .ok tokens)
    (recased : source.IsRecased (· = .dollarQuotedString) changed) :
    ∃ others, tokenize changed = .ok others ∧
      List.Forall₂ (Token.IsRecased (· = .dollarQuotedString)) tokens others := by
  obtain ⟨solid, rfl⟩ := (tokenize_eq_ok_iff _ _).mp accepted
  have stillSolid := exists_solid_of_fold_eq recased.fold solid
  exact ⟨tokensOf changed, (tokenize_eq_ok_iff _ _).mpr ⟨stillSolid, rfl⟩,
    tokensOf_recased recased rfl⟩

/-- Words, a radix mark, an exponent, a lone dollar, a string whose delimiter differs from a tag in
its body by case alone, an open quoted identifier. -/
theorem tokenize_recased_delimiterInBody :
    ∃ tokens others : List Token,
      tokenize "Select 0XfE+1e5 $a $Ab$x$ab$Ab$é /*K*/\"z".toList = .ok tokens ∧
      Text.IsRecased (· = .dollarQuotedString) "Select 0XfE+1e5 $a $Ab$x$ab$Ab$é /*K*/\"z".toList
        "sELECT 0xFe+1E5 $A $Ab$x$ab$Ab$é /*k*/\"Z".toList ∧
      tokenize "sELECT 0xFe+1E5 $A $Ab$x$ab$Ab$é /*k*/\"Z".toList = .ok others ∧
      List.Forall₂ (Token.IsRecased (· = .dollarQuotedString)) tokens others := by
  have accepted : tokenize "Select 0XfE+1e5 $a $Ab$x$ab$Ab$é /*K*/\"z".toList =
      .ok (tokensOf "Select 0XfE+1e5 $a $Ab$x$ab$Ab$é /*K*/\"z".toList) := rfl
  have recased : Text.IsRecased (· = .dollarQuotedString)
      "Select 0XfE+1e5 $a $Ab$x$ab$Ab$é /*K*/\"z".toList
      "sELECT 0xFe+1E5 $A $Ab$x$ab$Ab$é /*k*/\"Z".toList :=
    ⟨by decide, by decide +kernel⟩
  obtain ⟨others, still, same⟩ := tokenize_recased accepted recased
  exact ⟨_, others, accepted, recased, still, same⟩

end SqlLexer
