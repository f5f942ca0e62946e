import SqlLexer.Proofs.Cursor.Scan
import SqlLexer.Proofs.Tiling

/-!
# Cursors between two texts

A cursor stands between the text that it has consumed and the text that remains.  Its offset and
its location are what the consumed text makes of them, and everything it shows is the remaining
text.  No sequence of moves and returns leads to a cursor that stands anywhere else, and from there
every move ends when it is made step by step.
-/

namespace SqlLexer

/-- Every form of lexeme is an initial part of the text it is read from, whatever the text starts
with. -/
theorem Lexeme.Form.read_text_initial (form : Form) (text : Text) :
    (form.read text).text <+: text := by
  cases form with
  | lineComment => exact List.takeWhile_prefix _
  | blockComment => exact blockComment_stops.initial text
  | number => exact number_text_initial text
  | operator => exact operator_text_initial text
  | stringLiteral => exact (quoted_stops singleQuote).initial text
  | quotedIdentifier => exact (quoted_stops doubleQuote).initial text
  | dollarQuotedString => exact dollarQuotedString_text_initial text

namespace Cursor

/-! ## Moves -/

/-- The ways to move a cursor forward. -/
inductive Move where
  | advance
  | advanceBy (count : Nat)
  | advanceWhile (condition : Char → Bool)
  | read (form : Lexeme.Form)

namespace Move

/-- The cursor after a move. -/
def apply : Move → Cursor → Cursor
  | .advance, cursor => cursor.advance.2
  | .advanceBy count, cursor => cursor.advanceBy count
  | .advanceWhile condition, cursor => cursor.advanceWhile condition
  | .read form, cursor => (cursor.read form).2

/-- Makes a move step by step. -/
def goOn : Move → Cursor → Part Cursor
  | .advance, cursor => .some cursor.advance.2
  | .advanceBy count, cursor => .some (cursor.advanceEach count)
  | .advanceWhile condition, cursor => cursor.goOnWhile condition
  | .read form, cursor => (cursor.scan form).map Prod.snd

/-- A move that is made step by step ends where it leads at once, unless the cursor stands within a
character. -/
theorem goOn_eq_apply (move : Move) {cursor : Cursor} (steady : cursor.IsSteady) :
    move.goOn cursor = .some (move.apply cursor) := by
  cases move with
  | advance => rfl
  | advanceBy count => rw [goOn, advanceEach_eq, apply]
  | advanceWhile condition => rw [goOn, goOnWhile_eq fun _ => steady, apply]
  | read form => rw [goOn, scan_eq fun _ => steady, Part.map_some, apply]

/-- What a move takes from the text that remains. -/
def taken : Move → Text → Text
  | .advance, rest => rest.take 1
  | .advanceBy count, rest => rest.take count
  | .advanceWhile condition, rest => rest.takeWhile condition
  | .read form, rest => (form.read rest).text

theorem taken_initial (move : Move) (rest : Text) : move.taken rest <+: rest := by
  cases move with
  | advance => exact List.take_prefix 1 rest
  | advanceBy count => exact List.take_prefix count rest
  | advanceWhile condition => exact List.takeWhile_prefix condition
  | read form => exact form.read_text_initial rest

/-- Each move passes over what it takes. -/
theorem apply_eq_pass (move : Move) (cursor : Cursor) :
    move.apply cursor = cursor.pass (move.taken cursor.remaining) := by
  cases move with
  | advance =>
      rw [apply, taken, Cursor.advance]
      cases cursor.remaining <;> rfl
  | advanceBy count => rfl
  | advanceWhile condition => rfl
  | read form => rfl

end Move

/-! ## The two texts -/

/-- A cursor between the text that it has consumed and the text that remains. -/
structure IsBetween (cursor : Cursor) (consumed rest : Text) : Prop where
  source_eq : cursor.source = consumed ++ rest
  offset_eq : cursor.offset = Text.byteLength consumed
  location_eq : cursor.location = Location.start.walk consumed

theorem isBetween_start (source : Text) : (start source).IsBetween [] source :=
  ⟨rfl, rfl, rfl⟩

namespace IsBetween

variable {cursor : Cursor} {consumed rest : Text}

theorem remaining_eq (between : cursor.IsBetween consumed rest) : cursor.remaining = rest := by
  rw [remaining, between.source_eq, between.offset_eq, Text.dropBytes_append]

theorem isAtEnd_iff (between : cursor.IsBetween consumed rest) : cursor.isAtEnd ↔ rest = [] := by
  rw [isAtEnd, decide_eq_true_eq, between.source_eq, between.offset_eq, Text.byteLength_append]
  constructor
  · intro atEnd
    by_contra nonempty
    have positive := Text.byteLength_pos nonempty
    omega
  · rintro rfl
    simp

/-- A cursor between two texts does not stand within a character. -/
theorem isSteady (between : cursor.IsBetween consumed rest) : cursor.IsSteady := by
  intro nothingRemains
  rw [between.remaining_eq] at nothingRemains
  exact between.isAtEnd_iff.mpr nothingRemains

theorem peekAt_eq (between : cursor.IsBetween consumed rest) (places : Nat) :
    cursor.peekAt places = rest.getD places '\x00' := by
  rw [peekAt, between.remaining_eq, List.getD_eq_getElem?_getD]

theorem advance_fst (between : cursor.IsBetween consumed rest) : cursor.advance.1 = rest.head? := by
  rw [advance, between.remaining_eq]
  cases rest <;> rfl

/-- A cursor that passes over the head of what remains has it behind itself. -/
theorem pass
    {taken after : Text}
    (between : cursor.IsBetween consumed (taken ++ after)) :
    (cursor.pass taken).IsBetween (consumed ++ taken) after where
  source_eq := by
    rw [List.append_assoc]
    exact between.source_eq
  offset_eq := by
    rw [Text.byteLength_append, ← between.offset_eq]
    rfl
  location_eq := by
    rw [Location.walk_append, ← between.location_eq]
    rfl

/-- A move takes its part of what remains. -/
theorem move
    {move : Move}
    {after : Text}
    (between : cursor.IsBetween consumed rest)
    (split : rest = move.taken rest ++ after) :
    (move.apply cursor).IsBetween (consumed ++ move.taken rest) after := by
  rw [move.apply_eq_pass, between.remaining_eq]
  apply pass
  rwa [← split]

end IsBetween

/-! ## Cursors over one source -/

/-- The cursors that moves and returns make of the cursor at the start of a source, where a return
may be to a mark of any of them. -/
inductive IsReached (source : Text) : Cursor → Prop
  | start {cursor : Cursor}
      (accepted : ofSource source = .ok cursor) :
      IsReached source cursor
  | move {cursor : Cursor}
      (reached : IsReached source cursor)
      (move : Move) :
      IsReached source (move.apply cursor)
  | restore {cursor marked : Cursor}
      (reached : IsReached source cursor)
      (remembered : IsReached source marked) :
      IsReached source (cursor.restore marked.mark)

/-- A cursor over a source as a cut between what is consumed and what remains. -/
structure IsSplit (source : Text) (cursor : Cursor) (consumed rest : Text) : Prop
    extends cursor.IsBetween consumed rest where
  remaining_eq : cursor.remaining = rest
  isAtEnd_iff : cursor.isAtEnd ↔ rest = []
  /-- What lies ahead is the remaining text, and then null characters. -/
  peekAt_eq : ∀ places, cursor.peekAt places = rest.getD places '\x00'
  advance_fst : cursor.advance.1 = rest.head?
  /-- A move consumes the text that it takes from the head of the rest, and nothing else. -/
  move : ∀ move : Move, ∃ after, rest = move.taken rest ++ after ∧
    (move.apply cursor).IsBetween (consumed ++ move.taken rest) after
  /-- A lexeme is as long as the way that the cursor moves on. -/
  read : ∀ form, (cursor.read form).1 = form.read rest ∧
    (cursor.read form).2.offset = cursor.offset + Text.byteLength (cursor.read form).1.text
  /-- Made step by step, every move comes to an end, and to the same one. -/
  goOn : ∀ move : Move, move.goOn cursor = .some (move.apply cursor)
  /-- A scanner comes to an end and reports the bytes between the offsets. -/
  scan : ∀ form, cursor.scan form =
    .some
      (⟨(form.read rest).kind, some (Text.byteLength (form.read rest).text)⟩,
        (cursor.read form).2)
  /-- A return ends at the very cursor that was marked. -/
  restore : ∀ marked, IsReached source marked → cursor.restore marked.mark = marked

theorem ofSource_eq_ok
    {source : Text}
    {cursor : Cursor}
    (accepted : ofSource source = .ok cursor) :
    cursor = start source := by
  rw [ofSource] at accepted
  cases outcome : checkSource source with
  | error error =>
      rw [outcome] at accepted
      cases accepted
  | ok _ =>
      rw [outcome] at accepted
      cases accepted
      rfl

theorem source_apply (move : Move) (cursor : Cursor) :
    (move.apply cursor).source = cursor.source := by
  rw [move.apply_eq_pass]
  rfl

/-- No reached cursor is over another source. -/
theorem IsReached.source_eq
    {source : Text}
    {cursor : Cursor}
    (reached : IsReached source cursor) :
    cursor.source = source := by
  induction reached with
  | start accepted =>
      rw [ofSource_eq_ok accepted]
      rfl
  | move _ move inductionHypothesis => rw [source_apply, inductionHypothesis]
  | restore _ _ inductionHypothesis _ => exact inductionHypothesis

/-- A return ends at the cursor that was marked, as both are over one source. -/
theorem IsReached.restore_mark
    {source : Text}
    {cursor marked : Cursor}
    (reached : IsReached source cursor)
    (remembered : IsReached source marked) :
    cursor.restore marked.mark = marked := by
  rw [Cursor.restore, reached.source_eq, ← remembered.source_eq]
  rfl

/-- Every reached cursor stands between two texts. -/
theorem IsReached.exists_isBetween
    {source : Text}
    {cursor : Cursor}
    (reached : IsReached source cursor) :
    ∃ consumed rest, cursor.IsBetween consumed rest := by
  -- A move shifts the cut, and a return goes to a cut that some cursor had before.
  induction reached with
  | start accepted =>
      rw [ofSource_eq_ok accepted]
      exact ⟨_, _, isBetween_start source⟩
  | move _ move inductionHypothesis =>
      obtain ⟨consumed, rest, between⟩ := inductionHypothesis
      obtain ⟨after, split⟩ := move.taken_initial rest
      exact ⟨_, after, between.move split.symm⟩
  | restore reached remembered _ inductionHypothesis =>
      rw [reached.restore_mark remembered]
      exact inductionHypothesis

/-- However often it is moved and returned, a cursor stays a cut through its source. -/
theorem isSplit_of_isReached
    {source : Text}
    {cursor : Cursor}
    (reached : IsReached source cursor) :
    ∃ consumed rest, source = consumed ++ rest ∧ IsSplit source cursor consumed rest := by
  obtain ⟨consumed, rest, between⟩ := reached.exists_isBetween
  refine ⟨consumed, rest, reached.source_eq.symm.trans between.source_eq, ?_⟩
  constructor
  case toIsBetween => exact between
  case remaining_eq => exact between.remaining_eq
  case isAtEnd_iff => exact between.isAtEnd_iff
  case peekAt_eq => exact between.peekAt_eq
  case advance_fst => exact between.advance_fst
  case move =>
    intro move
    obtain ⟨after, split⟩ := move.taken_initial rest
    exact ⟨after, split.symm, between.move split.symm⟩
  case read =>
    intro form
    refine ⟨?_, rfl⟩
    rw [Cursor.read, between.remaining_eq]
  case goOn => exact fun move => move.goOn_eq_apply between.isSteady
  case scan =>
    intro form
    rw [scan_eq fun _ => between.isSteady, between.remaining_eq]
  case restore => exact fun marked remembered => reached.restore_mark remembered

/-- Letters read as an open comment, a number at the end, a return to the start, a letter of two
bytes as an operator, a line feed, an open dollar-quoted string and a return in front of it. -/
theorem isSplit_of_isReached_openString :
    ∃ (cursor : Cursor) (consumed rest : Text),
      IsReached "é\n$b$ x".toList cursor ∧ cursor.offset = 3 ∧ cursor.location = ⟨2, 1⟩ ∧
        "é\n$b$ x".toList = consumed ++ rest ∧
        IsSplit "é\n$b$ x".toList cursor consumed rest := by
  have begun : IsReached "é\n$b$ x".toList (start "é\n$b$ x".toList) := .start rfl
  have ended := (begun.move (.read .blockComment)).move (.read .number)
  have stepped := ((ended.restore begun).move (.read .operator)).move .advance
  have returned := (stepped.move (.read .dollarQuotedString)).restore stepped
  obtain ⟨consumed, rest, parts, isSplit⟩ := isSplit_of_isReached returned
  exact ⟨_, consumed, rest, returned, by decide +kernel, by decide +kernel, parts, isSplit⟩

end Cursor
end SqlLexer
