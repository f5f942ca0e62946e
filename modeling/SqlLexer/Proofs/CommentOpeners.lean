import SqlLexer.Proofs.Lexeme.Code
import SqlLexer.Proofs.Surroundings
import SqlLexer.Proofs.Tiling

/-!
# Comment openers in a source

Where two characters of a source open a comment, one starts there, or the two lie inside of a
comment, a string or a quoted identifier.  No other token has an opener inside or across its end.
-/

namespace SqlLexer

open Lexeme (First lineOpener blockOpener startsComment hasCommentOpener)

namespace Text

/-- Of two ways to cut a text, one cuts the longer part of the other. -/
theorem exists_between_of_append_eq_append
    {first second before after : Text}
    (same : first ++ second = before ++ after)
    (fits : byteLength first ≤ byteLength before) :
    ∃ between, before = first ++ between ∧ second = between ++ after := by
  rcases List.append_eq_append_iff.mp same with cut | ⟨between, rfl, rfl⟩
  · exact cut
  · cases between with
    | nil => exact ⟨[], by simp, rfl⟩
    | cons c rest =>
        have positive := byteLength_pos (List.cons_ne_nil c rest)
        rw [byteLength_append] at fits
        omega

end Text

/-- Every byte of the laid out lexemes is in one of the tokens. -/
theorem exists_mem_placeLexemes_contains
    {offset position : Nat}
    {location : Location}
    {pieces : List Lexeme}
    (notBefore : offset ≤ position)
    (inside : position < offset + Text.byteLength (Lexeme.concatText pieces)) :
    ∃ token ∈ placeLexemes offset location pieces, token.span.contains position := by
  induction pieces generalizing offset location with
  | nil =>
      rw [Lexeme.concatText_nil, Text.byteLength_nil] at inside
      omega
  | cons piece rest inductionHypothesis =>
      rw [Lexeme.concatText_cons, Text.byteLength_append, ← Nat.add_assoc] at inside
      rw [placeLexemes_cons]
      rcases Nat.lt_or_ge position (offset + Text.byteLength piece.text) with here | later
      · refine ⟨_, List.mem_cons_self, ?_⟩
        simp [Span.contains, Span.stop, notBefore, here]
      · obtain ⟨token, member, contains⟩ := inductionHypothesis later inside
        exact ⟨token, List.mem_cons_of_mem _ member, contains⟩

namespace Lexeme

/-- A text that starts like a comment has an opener, whatever stands before it. -/
theorem hasCommentOpener_append_of_startsComment
    {text : Text}
    (opens : startsComment text)
    (before : Text) :
    hasCommentOpener (before ++ text) := by
  cases text with
  | nil => simp [startsComment, lineOpener, blockOpener] at opens
  | cons c rest =>
      rw [hasCommentOpener_append, hasCommentOpener_cons c rest, opens]
      simp

/-- Whether a comment starts does not depend on more than one character behind the first part
of a text. -/
theorem startsComment_append_take
    {text : Text}
    (nonempty : text ≠ [])
    (after : Text) :
    startsComment (text ++ after.take 1) = startsComment (text ++ after) := by
  cases text with
  | nil => contradiction
  | cons c rest =>
      apply startsComment_cons_congr
      cases rest <;> cases after <;> rfl

/-- Two minus signs at the head of a text begin a line comment. -/
theorem First.kind_of_lineOpener
    {text : Text}
    {lexeme : Lexeme}
    (first : First text lexeme)
    (opener : lineOpener <+: text) :
    lexeme.kind = .lineComment := by
  obtain ⟨c, rest, rfl⟩ := first.exists_eq_cons
  have comment := First.lineComment (List.isPrefixOf_iff_prefix.mpr opener)
  rw [← first.next_eq, comment.next_eq]
  rfl

theorem First.kind_of_blockOpener
    {text : Text}
    {lexeme : Lexeme}
    (first : First text lexeme)
    (opener : blockOpener <+: text) :
    lexeme.kind = .blockComment := by
  obtain ⟨c, rest, rfl⟩ := first.exists_eq_cons
  have comment := First.blockComment (List.isPrefixOf_iff_prefix.mpr opener)
  rw [← first.next_eq, comment.next_eq]
  rfl

end Lexeme

/-- A token over a place in a text consists of what lies before that place and of what lies
behind it, and the latter is not empty. -/
theorem exists_parts_of_contains
    {before after : Text}
    {token : Token}
    (member : token ∈ tokensOf (before ++ after))
    (contains : token.span.contains before.byteLength) :
    ∃ front back rest,
      token.text = front ++ back ∧ back ≠ [] ∧ after = back ++ rest ∧
      First (token.text ++ rest) token.lexeme ∧
      (token.span.start = before.byteLength → front = []) := by
  obtain ⟨ahead, rest, same, between⟩ := exists_isBetween_of_mem_tokensOf member
  rw [Span.contains, Span.stop, Bool.and_eq_true, decide_eq_true_eq, decide_eq_true_eq,
    between.start, between.length] at contains
  obtain ⟨notBefore, inside⟩ := contains
  obtain ⟨front, rfl, split⟩ := Text.exists_between_of_append_eq_append same.symm notBefore
  rw [Text.byteLength_append, Nat.add_lt_add_iff_left] at inside
  obtain ⟨back, parts, afterEq⟩ :=
    Text.exists_between_of_append_eq_append split.symm (Nat.le_of_lt inside)
  have nonempty : back ≠ [] := by
    rintro rfl
    rw [parts, List.append_nil] at inside
    exact Nat.lt_irrefl _ inside
  refine ⟨front, back, rest, parts, nonempty, afterEq, ?_, ?_⟩
  · rcases between.first with first | ⟨isMark, _⟩
    · exact first
    · have isEmpty : token.text = [] := congrArg Lexeme.text isMark
      simp [isEmpty] at inside
  · intro atStart
    rw [between.start, Text.byteLength_append, Nat.left_eq_add] at atStart
    by_contra filled
    exact absurd atStart (Nat.ne_of_gt (Text.byteLength_pos filled))

/-- An opener inside a token makes it one of those that may hold any text. -/
theorem kind_mem_enclosing
    {front back rest : Text}
    {token : Token}
    (parts : token.text = front ++ back)
    (nonempty : back ≠ [])
    (first : First (token.text ++ rest) token.lexeme)
    (opens : startsComment (back ++ rest)) :
    token.kind ∈ Kind.enclosing := by
  -- The opener may take its second character from behind the token, so one more is looked at.
  by_contra code
  have closed : hasCommentOpener (token.text ++ rest.take 1) = false :=
    @First.hasCommentOpener_of_code token.lexeme rest first code
  rw [← Lexeme.startsComment_append_take nonempty] at opens
  rw [parts, List.append_assoc, Lexeme.hasCommentOpener_append_of_startsComment opens] at closed
  contradiction

/-- A list of tokens in which every comment opener of the source opens a comment, or lies in a
comment, a string or a quoted identifier. -/
structure HonoursOpeners (source : Text) (tokens : List Token) : Prop where
  /-- A token lies over each opener. -/
  covered : ∀ before after, source = before ++ after → startsComment after →
    ∃ token ∈ tokens, token.span.contains before.byteLength
  /-- Each token over an opener may hold any text. -/
  enclosed : ∀ before after, source = before ++ after → startsComment after →
    ∀ token ∈ tokens, token.span.contains before.byteLength → token.kind ∈ Kind.enclosing
  /-- A token that starts with the opener of a line comment is one. -/
  line : ∀ before after, source = before ++ after → lineOpener <+: after →
    ∀ token ∈ tokens, token.span.contains before.byteLength →
      token.span.start = before.byteLength → token.kind = .lineComment
  /-- A token that starts with the opener of a block comment is one. -/
  block : ∀ before after, source = before ++ after → blockOpener <+: after →
    ∀ token ∈ tokens, token.span.contains before.byteLength →
      token.span.start = before.byteLength → token.kind = .blockComment
  /-- Other tokens hold no opener, and none lies across their end. -/
  apart : ∀ token ∈ tokens, token.kind ∉ Kind.enclosing →
    hasCommentOpener (token.text ++ (source.dropBytes token.span.stop).take 1) = false

/-- A token that starts at a place in a text is the first lexeme from there on. -/
theorem first_of_contains
    {before after : Text}
    {token : Token}
    (member : token ∈ tokensOf (before ++ after))
    (contains : token.span.contains before.byteLength)
    (starts : token.span.start = before.byteLength) :
    First after token.lexeme := by
  obtain ⟨front, back, rest, parts, _, rfl, first, atStart⟩ :=
    exists_parts_of_contains member contains
  rwa [parts, atStart starts, List.nil_append] at first

/-- A comment opener in the code of an accepted source always opens a comment. -/
theorem tokenize_honoursOpeners
    {source : Text}
    {tokens : List Token}
    (accepted : tokenize source = .ok tokens) :
    HonoursOpeners source tokens := by
  obtain ⟨_, rfl⟩ := (tokenize_eq_ok_iff _ _).mp accepted
  constructor
  case covered =>
    rintro before after rfl opens
    have nonempty : after ≠ [] := by
      rintro rfl
      exact absurd opens (by decide)
    have positive := Text.byteLength_pos nonempty
    apply exists_mem_placeLexemes_contains (Nat.zero_le _)
    rw [concatText_lexemes, Text.byteLength_append]
    omega
  case enclosed =>
    rintro before after rfl opens token member contains
    obtain ⟨front, back, rest, parts, nonempty, rfl, first, _⟩ :=
      exists_parts_of_contains member contains
    exact kind_mem_enclosing parts nonempty first opens
  case line =>
    rintro before after rfl opener token member contains starts
    exact (first_of_contains member contains starts).kind_of_lineOpener opener
  case block =>
    rintro before after rfl opener token member contains starts
    exact (first_of_contains member contains starts).kind_of_blockOpener opener
  case apart =>
    intro token member code
    obtain ⟨before, after, split, between⟩ := exists_isBetween_of_mem_tokensOf member
    rw [split, between.dropBytes_stop]
    rcases between.first with first | ⟨isMark, rfl⟩
    · exact @First.hasCommentOpener_of_code token.lexeme after first code
    · have isEmpty : token.text = [] := congrArg Lexeme.text isMark
      rw [isEmpty]
      rfl

/-- Operators cut short by comments behind them, an exponent that breaks off before a comment and
openers inside of other tokens. -/
theorem tokenize_honoursOpeners_cutOperators :
    ∃ tokens : List Token,
      tokenize "?||/*--*/1e#--/*\n'--'-|-/$$/*".toList = .ok tokens ∧
      HonoursOpeners "?||/*--*/1e#--/*\n'--'-|-/$$/*".toList tokens := by
  have accepted : tokenize "?||/*--*/1e#--/*\n'--'-|-/$$/*".toList =
      .ok (tokensOf "?||/*--*/1e#--/*\n'--'-|-/$$/*".toList) := rfl
  exact ⟨_, accepted, tokenize_honoursOpeners accepted⟩

end SqlLexer
