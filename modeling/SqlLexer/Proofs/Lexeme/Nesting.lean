import Mathlib.Data.List.Infix
import SqlLexer.Proofs.Cursor.Remaining
import SqlLexer.Proofs.Lexeme.Initial

/-!
# Comments inside of comments

The grammar of block comments nests, while their reader keeps no more than the number of comments
that are open.  Both find the same end: the reader takes the one initial part of a text that is a
comment, and the whole text when no initial part is one.
-/

namespace SqlLexer
namespace Lexeme

/-! ## The grammar -/

/-- A text between an opener and a closer. -/
def enclosed (items : Text) : Text :=
  blockOpener ++ (items ++ blockCloser)

/-- What stands between an opener and its closer: comments, and single characters at which neither
an opener nor a closer starts. -/
inductive AreItems : Text → Prop
  | nil : AreItems []
  | comment {inner items : Text}
      (areInner : AreItems inner)
      (areItems : AreItems items) :
      AreItems (enclosed inner ++ items)
  | single {c : Char} {items : Text}
      (noOpener : ¬ blockOpener <+: c :: (items ++ blockCloser))
      (noCloser : ¬ blockCloser <+: c :: (items ++ blockCloser))
      (areItems : AreItems items) :
      AreItems (c :: items)

/-- Block comments: an opener, items and a closer. -/
def IsComment (text : Text) : Prop :=
  ∃ items, AreItems items ∧ text = enclosed items

/-! ## The reader follows the grammar -/

theorem blockOpener_prefix_iff (c d : Char) (rest : Text) :
    blockOpener <+: c :: d :: rest ↔ c = '/' ∧ d = '*' := by
  simp [blockOpener, eq_comm]

theorem blockCloser_prefix_iff (c d : Char) (rest : Text) :
    blockCloser <+: c :: d :: rest ↔ c = '*' ∧ d = '/' := by
  simp [blockCloser, eq_comm]

/-- A character at which no mark starts is read as such, whatever is open. -/
theorem blockBody_single
    {c : Char}
    {rest : Text}
    (noOpener : ¬ blockOpener <+: c :: rest)
    (noCloser : ¬ blockCloser <+: c :: rest)
    (depth : Nat) :
    blockBody depth (c :: rest) = c :: blockBody depth rest := by
  cases rest with
  | nil => rfl
  | cons d rest =>
      rw [blockOpener_prefix_iff] at noOpener
      rw [blockCloser_prefix_iff] at noCloser
      exact blockBody_cons_cons_of_not noOpener noCloser depth rest

/-- The opener raises the depth for the items inside, and the closer behind them lowers it
again. -/
theorem blockBody_enclosed
    {items : Text}
    (reads : ∀ depth after, blockBody depth (items ++ (blockCloser ++ after)) =
      items ++ blockBody depth (blockCloser ++ after))
    (depth : Nat)
    (after : Text) :
    blockBody depth (enclosed items ++ after) = enclosed items ++ blockBody depth after := by
  have split : enclosed items ++ after = '/' :: '*' :: (items ++ (blockCloser ++ after)) := by
    simp [enclosed, blockOpener]
  have closes : blockBody (depth + 1) (blockCloser ++ after) =
      '*' :: '/' :: blockBody depth after :=
    blockBody_closer_succ depth after
  rw [split, blockBody_opener, reads, closes]
  simp [enclosed, blockOpener, blockCloser]

namespace AreItems

variable {items : Text}

/-- Items in front of a closer are read through, however many comments are open around them. -/
theorem blockBody_append
    (areItems : AreItems items)
    (depth : Nat)
    (after : Text) :
    blockBody depth (items ++ (blockCloser ++ after)) =
      items ++ blockBody depth (blockCloser ++ after) := by
  induction areItems generalizing depth after with
  | nil => rfl
  | comment _ _ readsInner readsItems =>
      rw [List.append_assoc, blockBody_enclosed readsInner, readsItems, List.append_assoc]
  | @single c items noOpener noCloser _ readsItems =>
      -- Whether a mark starts at the character is settled before the closer ends.
      have split : c :: (items ++ (blockCloser ++ after)) =
          c :: (items ++ blockCloser) ++ after := by simp
      have long (mark : Text) (short : mark.length = 2) :
          mark.length ≤ (c :: (items ++ blockCloser)).length := by
        simp [short, blockCloser]
      have single := blockBody_single
        (fun opens => noOpener <|
          (List.isPrefix_append_of_length (long blockOpener rfl)).mp (split ▸ opens))
        (fun closes => noCloser <|
          (List.isPrefix_append_of_length (long blockCloser rfl)).mp (split ▸ closes))
        depth
      rw [List.cons_append, single, readsItems, List.cons_append]

end AreItems

/-- A comment at the head of a text is read as a whole and no further. -/
theorem IsComment.blockComment_append
    {comment : Text}
    (isComment : IsComment comment)
    (after : Text) :
    blockComment (comment ++ after) = ⟨.blockComment, comment⟩ := by
  obtain ⟨items, areItems, rfl⟩ := isComment
  have body : blockBody 0 (items ++ (blockCloser ++ after)) = items ++ blockCloser := by
    rw [areItems.blockBody_append]
    exact congrArg (items ++ ·) (blockBody_closer_zero after)
  have split : enclosed items ++ after = '/' :: '*' :: (items ++ (blockCloser ++ after)) := by
    simp [enclosed, blockOpener]
  rw [split, blockComment]
  exact congrArg (fun rest => Lexeme.mk .blockComment ('/' :: '*' :: rest)) body

/-- A text runs through items to a closer, or else the reader takes it to its end. -/
theorem exists_items_or_blockBody_eq (text : Text) :
    (∃ items after, AreItems items ∧ text = items ++ (blockCloser ++ after)) ∨
      ∀ depth, blockBody depth text = text := by
  induction size : text.length using Nat.strong_induction_on generalizing text with
  | _ length inductionHypothesis =>
      subst size
      by_cases opens : blockOpener <+: text
      · obtain ⟨inside, rfl⟩ := opens
        have shorter : inside.length < (blockOpener ++ inside).length := by
          rw [List.length_append]
          exact Nat.lt_add_of_pos_left (by decide)
        rcases inductionHypothesis _ shorter inside rfl with ⟨inner, after, areInner, rfl⟩ | whole
        · have split : blockOpener ++ (inner ++ (blockCloser ++ after)) =
              enclosed inner ++ after := by simp [enclosed]
          rw [split]
          have atMost : after.length ≤ (inner ++ (blockCloser ++ after)).length := by
            simp only [List.length_append]
            omega
          rcases inductionHypothesis _ (Nat.lt_of_le_of_lt atMost shorter) after rfl with
            ⟨items, behind, areItems, rfl⟩ | whole
          · exact .inl ⟨_, behind, .comment areInner areItems, by rw [List.append_assoc]⟩
          · refine .inr fun depth => ?_
            rw [blockBody_enclosed areInner.blockBody_append, whole]
        · refine .inr fun depth => ?_
          exact (blockBody_opener depth inside).trans (congrArg (blockOpener ++ ·) (whole _))
      by_cases closes : blockCloser <+: text
      · obtain ⟨after, rfl⟩ := closes
        exact .inl ⟨[], after, .nil, rfl⟩
      cases text with
      | nil => exact .inr fun _ => rfl
      | cons c rest =>
          have shorter : rest.length < (c :: rest).length := by simp
          rcases inductionHypothesis _ shorter rest rfl with ⟨items, after, areItems, rfl⟩ | whole
          · have initial : c :: (items ++ blockCloser) <+: c :: (items ++ (blockCloser ++ after)) :=
              ⟨after, by simp⟩
            exact .inl ⟨c :: items, after, .single (fun starts => opens (starts.trans initial))
              (fun starts => closes (starts.trans initial)) areItems, rfl⟩
          · refine .inr fun depth => ?_
            rw [blockBody_single opens closes, whole]

/-- A text that opens a comment has one at its head, or is read to its end. -/
theorem exists_isComment_or_blockComment_eq
    {text : Text}
    (opens : blockOpener <+: text) :
    (∃ comment after, IsComment comment ∧ text = comment ++ after) ∨
      blockComment text = ⟨.blockComment, text⟩ := by
  obtain ⟨inside, rfl⟩ := opens
  rcases exists_items_or_blockBody_eq inside with ⟨items, after, areItems, rfl⟩ | whole
  · exact .inl ⟨enclosed items, after, ⟨items, areItems, rfl⟩, by simp [enclosed]⟩
  · refine .inr ?_
    exact congrArg (fun rest => Lexeme.mk .blockComment (blockOpener ++ rest)) (whole 0)

/-! ## The count of open comments -/

/-- A point on the way through a block comment: how many comments are open, what has been read and
what is left.  Nothing about the count keeps it from falling below zero. -/
structure Nesting where
  depth : Int
  read : Text
  rest : Text

namespace Nesting

/-- The points that are reached while a comment is open, from the opener of a text on. -/
inductive IsReached (text : Text) : Nesting → Prop
  | opened : IsReached text ⟨1, text.take 2, text.drop 2⟩
  | opener {depth : Int} {read rest : Text}
      (reached : IsReached text ⟨depth, read, blockOpener ++ rest⟩)
      (isOpen : depth ≠ 0) :
      IsReached text ⟨depth + 1, read ++ blockOpener, rest⟩
  | closer {depth : Int} {read rest : Text}
      (reached : IsReached text ⟨depth, read, blockCloser ++ rest⟩)
      (isOpen : depth ≠ 0) :
      IsReached text ⟨depth - 1, read ++ blockCloser, rest⟩
  | single {depth : Int} {read : Text} {c : Char} {rest : Text}
      (reached : IsReached text ⟨depth, read, c :: rest⟩)
      (isOpen : depth ≠ 0)
      (noOpener : ¬ blockOpener <+: c :: rest)
      (noCloser : ¬ blockCloser <+: c :: rest) :
      IsReached text ⟨depth, read ++ [c], rest⟩

/-- The count is zero where the comment is read, and else one more than the reader counts, which
completes what has been read. -/
def Agrees (text : Text) (point : Nesting) : Prop :=
  (point.depth = 0 ∧ point.read = (blockComment text).text) ∨
    ∃ outer : Nat, point.depth = outer + 1 ∧
      point.read ++ blockBody outer point.rest = (blockComment text).text

/-- While the comment is open, what has been read and the body that is left make up the comment. -/
theorem Agrees.exists_outer
    {text : Text}
    {point : Nesting}
    (agrees : point.Agrees text)
    (isOpen : point.depth ≠ 0) :
    ∃ outer : Nat, point.depth = outer + 1 ∧
      point.read ++ blockBody outer point.rest = (blockComment text).text :=
  agrees.resolve_left fun closed => isOpen closed.1

theorem Agrees.depth_nonneg
    {text : Text}
    {point : Nesting}
    (agrees : point.Agrees text) :
    0 ≤ point.depth := by
  rcases agrees with ⟨zero, _⟩ | ⟨outer, depth_eq, _⟩ <;> omega

/-- The count stands for the depth of the reader at every point. -/
theorem IsReached.agrees
    {text : Text}
    {point : Nesting}
    (reached : IsReached text point) :
    point.Agrees text := by
  induction reached with
  | opened => exact .inr ⟨0, rfl, rfl⟩
  | @opener depth read rest _ isOpen inductionHypothesis =>
      obtain ⟨outer, depth_eq, read_eq⟩ := inductionHypothesis.exists_outer isOpen
      refine .inr ⟨outer + 1, congrArg (· + 1) depth_eq, ?_⟩
      rw [← read_eq, List.append_assoc]
      exact congrArg (read ++ ·) (blockBody_opener outer rest).symm
  | @closer depth read rest _ isOpen inductionHypothesis =>
      obtain ⟨outer, depth_eq, read_eq⟩ := inductionHypothesis.exists_outer isOpen
      cases outer with
      | zero =>
          refine .inl ⟨by simp [show depth = 0 + 1 from depth_eq], ?_⟩
          rw [← read_eq]
          exact congrArg (read ++ ·) (blockBody_closer_zero rest).symm
      | succ outer =>
          refine .inr ⟨outer, by simp [show depth = (outer + 1 : Nat) + 1 from depth_eq], ?_⟩
          rw [← read_eq, List.append_assoc]
          exact congrArg (read ++ ·) (blockBody_closer_succ outer rest).symm
  | @single depth read c rest _ isOpen noOpener noCloser inductionHypothesis =>
      obtain ⟨outer, depth_eq, read_eq⟩ := inductionHypothesis.exists_outer isOpen
      refine .inr ⟨outer, depth_eq, ?_⟩
      rw [← read_eq, List.append_assoc, blockBody_single noOpener noCloser]
      rfl

/-- From every point the reader goes on to where the comment is closed or the text ends. -/
theorem IsReached.exists_end
    {text read rest : Text}
    {outer : Nat}
    (reached : IsReached text ⟨outer + 1, read, rest⟩) :
    ∃ depth behind, IsReached text ⟨depth, read ++ blockBody outer rest, behind⟩ ∧
      (depth = 0 ∨ behind = []) := by
  have isOpen (outer : Nat) : (outer + 1 : Int) ≠ 0 := by omega
  fun_induction blockBody outer rest generalizing read with
  | case1 outer =>
      rw [List.append_nil]
      exact ⟨_, _, reached, .inr rfl⟩
  | case2 outer c =>
      have step := reached.single (isOpen outer) (by simp [blockOpener]) (by simp [blockCloser])
      exact ⟨_, _, step, .inr rfl⟩
  | case3 outer c d rest opens inductionHypothesis =>
      obtain ⟨rfl, rfl⟩ := opens
      have step : IsReached text ⟨outer + 1 + 1, read ++ blockOpener, rest⟩ :=
        .opener reached (isOpen outer)
      have ends := inductionHypothesis step
      rwa [List.append_assoc] at ends
  | case4 c d rest _ closes =>
      obtain ⟨rfl, rfl⟩ := closes
      have step : IsReached text ⟨0 + 1 - 1, read ++ blockCloser, rest⟩ :=
        .closer reached (isOpen 0)
      exact ⟨_, _, step, .inl rfl⟩
  | case5 c d rest _ closes outer inductionHypothesis =>
      obtain ⟨rfl, rfl⟩ := closes
      have step : IsReached text ⟨(outer + 1 : Nat) + 1 - 1, read ++ blockCloser, rest⟩ :=
        .closer reached (isOpen _)
      rw [Int.add_sub_cancel] at step
      have ends := inductionHypothesis step
      rwa [List.append_assoc] at ends
  | case6 outer c d rest noOpener noCloser inductionHypothesis =>
      rw [← blockOpener_prefix_iff] at noOpener
      rw [← blockCloser_prefix_iff] at noCloser
      have ends := inductionHypothesis (reached.single (isOpen outer) noOpener noCloser)
      rwa [List.append_assoc] at ends

end Nesting

end Lexeme

namespace Cursor

open Lexeme (IsComment Nesting)

/-- How a cursor reads a block comment. -/
structure ReadsNested (cursor : Cursor) : Prop where
  /-- At most one initial part of what remains is a comment. -/
  unique : ∀ first second : Text, IsComment first → IsComment second →
    first <+: cursor.remaining → second <+: cursor.remaining → first = second
  /-- A comment at the head of what remains is read, and what is behind it remains. -/
  closed : ∀ comment rest : Text, IsComment comment → cursor.remaining = comment ++ rest →
    cursor.read .blockComment = (⟨.blockComment, comment⟩, cursor.pass comment) ∧
      (cursor.pass comment).remaining = rest
  /-- Without a comment at its head, all that remains is read. -/
  unclosed : (∀ comment : Text, IsComment comment → ¬ comment <+: cursor.remaining) →
    cursor.read .blockComment =
        (⟨.blockComment, cursor.remaining⟩, cursor.pass cursor.remaining) ∧
      (cursor.pass cursor.remaining).remaining = []
  /-- The count of open comments never falls below zero. -/
  depth_nonneg : ∀ point : Nesting, point.IsReached cursor.remaining → 0 ≤ point.depth
  /-- The points of the count lead to the end of what is read. -/
  exists_end : ∃ point : Nesting, point.IsReached cursor.remaining ∧
    point.read = (cursor.read .blockComment).1.text ∧ (point.depth = 0 ∨ point.rest = [])

/-- Where an opener lies ahead, a cursor reads the comment that nests rightly, or else all that
remains. -/
theorem readsNested_of_startsWith
    {cursor : Cursor}
    (opens : cursor.startsWith Lexeme.blockOpener) :
    cursor.ReadsNested where
  unique := by
    rintro first second isFirst isSecond ⟨afterFirst, firstEq⟩ ⟨afterSecond, secondEq⟩
    have sameText := isSecond.blockComment_append afterSecond
    rw [secondEq, ← firstEq, isFirst.blockComment_append] at sameText
    exact congrArg Lexeme.text sameText
  closed := by
    intro comment rest isComment split
    refine ⟨read_eq ?_, remaining_pass split⟩
    rw [split]
    exact isComment.blockComment_append rest
  unclosed := by
    intro noComment
    refine ⟨read_eq ?_, remaining_pass (List.append_nil _).symm⟩
    rcases Lexeme.exists_isComment_or_blockComment_eq (List.isPrefixOf_iff_prefix.mp opens) with
      ⟨comment, after, isComment, split⟩ | whole
    · exact absurd ⟨after, split.symm⟩ (noComment comment isComment)
    · exact whole
  depth_nonneg := fun _ reached => reached.agrees.depth_nonneg
  exists_end := by
    have begun : Nesting.IsReached cursor.remaining
        ⟨(0 : Nat) + 1, cursor.remaining.take 2, cursor.remaining.drop 2⟩ := .opened
    obtain ⟨depth, rest, reached, atEnd⟩ := begun.exists_end
    exact ⟨_, reached, rfl, atEnd⟩

/-- Marks that share characters, a comment inside of another and an opener across its end. -/
theorem readsNested_of_startsWith_overlaps :
    (start "/*/ /***/ **/*/".toList).startsWith Lexeme.blockOpener ∧
      (start "/*/ /***/ **/*/".toList).ReadsNested := by
  have opens : (start "/*/ /***/ **/*/".toList).startsWith Lexeme.blockOpener := by decide
  exact ⟨opens, readsNested_of_startsWith opens⟩

end Cursor
end SqlLexer
