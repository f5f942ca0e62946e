import SqlLexer.Proofs.Cursor.Split

/-!
# Cursors at a foreign offset

A mark of a cursor over another source may lead a cursor behind the end of its own source or into
one of its characters.  There the cursor is frozen: it sees nothing, and whatever moves it ends
without moving it.  Nothing else is lost, since every mark that was taken before leads back to the
cursor that it was taken of.
-/

namespace SqlLexer
namespace Text

/-- Offsets behind the first byte of a character and in front of the next character. -/
def IsInsideChar (text : Text) (offset : Nat) : Prop :=
  ∃ before c after, text = before ++ c :: after ∧
    byteLength before < offset ∧ offset < byteLength before + c.utf8Size

theorem not_isBoundary_of_lt {text : Text} {offset : Nat} (beyond : byteLength text < offset) :
    ¬IsBoundary text offset := by
  rintro ⟨before, after, rfl, rfl⟩
  rw [byteLength_append] at beyond
  omega

theorem IsInsideChar.not_isBoundary
    {text : Text}
    {offset : Nat}
    (inside : IsInsideChar text offset) :
    ¬IsBoundary text offset := by
  obtain ⟨before, c, after, rfl, behindFirst, inFrontOfNext⟩ := inside
  rintro ⟨first, second, split, rfl⟩
  obtain ⟨more, rfl, rest⟩ | ⟨more, rfl, _⟩ := List.append_eq_append_iff.mp split
  · cases more with
    | nil =>
        rw [List.append_nil] at behindFirst
        exact Nat.lt_irrefl _ behindFirst
    | cons d more =>
        obtain ⟨rfl, _⟩ := List.cons_eq_cons.mp rest
        rw [byteLength_append, byteLength_cons] at inFrontOfNext
        omega
  · rw [byteLength_append] at behindFirst
    omega

/-- An offset that is no boundary lies behind the end or inside a character. -/
theorem not_isBoundary_iff (text : Text) (offset : Nat) :
    ¬IsBoundary text offset ↔ byteLength text < offset ∨ IsInsideChar text offset := by
  constructor
  · intro noBoundary
    induction text generalizing offset with
    | nil =>
        have notStart : offset ≠ 0 := by
          rintro rfl
          exact noBoundary (isBoundary_append [] [])
        exact .inl (Nat.pos_of_ne_zero notStart)
    | cons c rest inductionHypothesis =>
        have notStart : offset ≠ 0 := by
          rintro rfl
          exact noBoundary (isBoundary_append [] (c :: rest))
        by_cases inFirst : offset < c.utf8Size
        · refine .inr ⟨[], c, rest, rfl, Nat.pos_of_ne_zero notStart, ?_⟩
          rwa [byteLength_nil, Nat.zero_add]
        · have notInRest : ¬IsBoundary rest (offset - c.utf8Size) := by
            rintro ⟨before, after, rfl, size⟩
            refine noBoundary ⟨c :: before, after, rfl, ?_⟩
            rw [byteLength_cons]
            omega
          obtain beyond | ⟨before, d, after, rfl, behindFirst, inFrontOfNext⟩ :=
            inductionHypothesis _ notInRest
          · left
            rw [byteLength_cons]
            omega
          · refine .inr ⟨c :: before, d, after, rfl, ?_, ?_⟩ <;>
              rw [byteLength_cons] <;> omega
  · rintro (beyond | inside)
    · exact not_isBoundary_of_lt beyond
    · exact inside.not_isBoundary

end Text

theorem CharClass.contains_null (charClass : CharClass) : charClass.contains '\x00' = false := by
  cases charClass <;> decide

namespace Cursor

open Lexeme

/-! ## Frozen cursors -/

/-- A cursor that sees nothing and stays where it is, whether it consumes a number of characters,
those of a class or a lexeme other than a comment, at once or step by step. -/
structure IsFrozen (cursor : Cursor) : Prop where
  remaining_eq : cursor.remaining = []
  current_eq : cursor.current = '\x00'
  peek_eq : cursor.peek = '\x00'
  peekAt_eq : ∀ places, cursor.peekAt places = '\x00'
  advance_eq : cursor.advance = (none, cursor)
  advanceBy_eq : ∀ count, cursor.advanceBy count = cursor
  advanceEach_eq : ∀ count, cursor.advanceEach count = cursor
  advanceWhile_eq : ∀ charClass : CharClass, cursor.advanceWhile charClass.contains = cursor
  goOnWhile_eq : ∀ charClass : CharClass, cursor.goOnWhile charClass.contains = .some cursor
  read_eq : ∀ form : Form, cursor.read form = (⟨(form.read []).kind, []⟩, cursor)
  scan_eq : ∀ form : Form, form.isComment = false →
    cursor.scan form = .some (⟨(form.read []).kind, some 0⟩, cursor)

variable {cursor : Cursor}

/-- Nothing remains at an offset where no character starts. -/
theorem remaining_eq_nil_of_not_isBoundary
    (noBoundary : ¬Text.IsBoundary cursor.source cursor.offset) :
    cursor.remaining = [] := by
  by_contra nonempty
  obtain ⟨before, source, offset⟩ := exists_source_eq nonempty
  exact noBoundary ⟨before, cursor.remaining, source, offset.symm⟩

theorem read_nil (form : Form) : form.read [] = ⟨(form.read []).kind, []⟩ := by
  cases form <;> rfl

theorem read_of_eq_nil (ahead : cursor.remaining = []) (form : Form) :
    cursor.read form = (⟨(form.read []).kind, []⟩, cursor) := by
  have isLexeme : form.read cursor.remaining = ⟨(form.read []).kind, []⟩ := by
    rw [ahead]
    exact read_nil form
  rw [read_eq isLexeme, pass_nil]

/-- Where nothing remains, a scanner that ends reports a lexeme without a byte. -/
theorem scan_of_eq_nil
    {form : Form}
    (ahead : cursor.remaining = [])
    (steady : form.isComment → cursor.IsSteady) :
    cursor.scan form = .some (⟨(form.read []).kind, some 0⟩, cursor) := by
  rw [Cursor.scan_eq steady, read_of_eq_nil ahead, ahead, read_nil]
  rfl

/-- A cursor with nothing before it does not move. -/
theorem isFrozen_of_eq_nil (ahead : cursor.remaining = []) : cursor.IsFrozen := by
  have nullAhead (places : Nat) : cursor.peekAt places = '\x00' := by
    rw [peekAt, ahead]
    rfl
  have taken (count : Nat) : cursor.advanceBy count = cursor := by
    rw [advanceBy, ahead, List.take_nil, pass_nil]
  have takenWhile (charClass : CharClass) : cursor.advanceWhile charClass.contains = cursor := by
    rw [advanceWhile, ahead, List.takeWhile_nil, pass_nil]
  constructor
  case remaining_eq => exact ahead
  case current_eq => exact nullAhead 0
  case peek_eq => exact nullAhead 1
  case peekAt_eq => exact nullAhead
  case advance_eq => exact advance_of_eq_nil ahead
  case advanceBy_eq => exact taken
  case advanceEach_eq =>
    intro count
    rw [Cursor.advanceEach_eq, taken]
  case advanceWhile_eq => exact takenWhile
  case goOnWhile_eq =>
    intro charClass
    rw [goOnWhile_of_stops charClass.contains_null, takenWhile]
  case read_eq => exact read_of_eq_nil ahead
  case scan_eq =>
    intro form noComment
    refine scan_of_eq_nil ahead fun isComment => ?_
    rw [noComment] at isComment
    contradiction

/-! ## The way back -/

/-- A move that ends when it is made step by step leads to where the move leads. -/
theorem Move.eq_apply_of_mem_goOn
    {move : Move}
    {after : Cursor}
    (ends : after ∈ move.goOn cursor) :
    after = move.apply cursor := by
  cases move with
  | advance => exact Part.mem_some_iff.mp ends
  | advanceBy count =>
      rw [goOn, advanceEach_eq] at ends
      exact Part.mem_some_iff.mp ends
  | advanceWhile condition =>
      rw [goOn] at ends
      by_cases stops : condition '\x00' → cursor.IsSteady
      · rw [goOnWhile_eq stops] at ends
        exact Part.mem_some_iff.mp ends
      · obtain ⟨goesOn, unsteady⟩ := Classical.not_imp.mp stops
        rw [goOnWhile_eq_none goesOn unsteady] at ends
        exact absurd ends (Part.notMem_none after)
  | read form =>
      obtain ⟨⟨scanned, _⟩, isScanned, rfl⟩ := (Part.mem_map_iff Prod.snd).mp ends
      rw [Cursor.scan_eq ((scan_dom_iff form cursor).mp isScanned.fst)] at isScanned
      exact congrArg Prod.snd (Part.mem_some_iff.mp isScanned)

/-- The operations that change a cursor, a return to whatever mark among them. -/
inductive Operation where
  | forward (move : Move)
  | back (mark : Mark)

/-- Carries out an operation, step by step. -/
def Operation.run : Operation → Cursor → Part Cursor
  | .forward move, cursor => move.goOn cursor
  | .back mark, cursor => .some (cursor.restore mark)

/-- Carries out one operation after the other. -/
def runAll : List Operation → Cursor → Part Cursor
  | [], cursor => .some cursor
  | operation :: operations, cursor => (operation.run cursor).bind (runAll operations)

/-- No operation leads to another source. -/
theorem source_of_mem_run
    {operation : Operation}
    {after : Cursor}
    (ends : after ∈ operation.run cursor) :
    after.source = cursor.source := by
  cases operation with
  | forward move =>
      rw [Operation.run] at ends
      rw [Move.eq_apply_of_mem_goOn ends, source_apply]
  | back mark =>
      rw [Operation.run] at ends
      obtain rfl := Part.mem_some_iff.mp ends
      rfl

theorem source_of_mem_runAll
    {operations : List Operation}
    {after : Cursor}
    (ends : after ∈ runAll operations cursor) :
    after.source = cursor.source := by
  induction operations generalizing cursor with
  | nil =>
      obtain rfl := Part.mem_some_iff.mp ends
      rfl
  | cons operation operations inductionHypothesis =>
      obtain ⟨between, isBetween, isAfter⟩ := Part.mem_bind_iff.mp ends
      rw [inductionHypothesis isAfter, source_of_mem_run isBetween]

/-- A mark leads from any cursor over the source back to the cursor that it was taken of. -/
theorem restore_mark_of_source_eq {earlier : Cursor} (same : cursor.source = earlier.source) :
    cursor.restore earlier.mark = earlier := by
  rw [restore, same]
  rfl

/-- A cursor that returns to a mark of a cursor over another source, behind the end of its own
source or inside one of its characters, is frozen.  Behind the end it scans comments as it scans
other lexemes, and from wherever it gets afterwards, a mark that it took before leads back to how
it was then. -/
theorem isFrozen_restore
    (cursor foreign : Cursor)
    (misplaced : Text.byteLength cursor.source < foreign.offset ∨
      Text.IsInsideChar cursor.source foreign.offset) :
    (cursor.restore foreign.mark).IsFrozen ∧
    (Text.byteLength cursor.source < foreign.offset → ∀ form : Form,
      (cursor.restore foreign.mark).scan form =
        .some (⟨(form.read []).kind, some 0⟩, cursor.restore foreign.mark)) ∧
    ∀ (earlier after : Cursor) (history afterwards : List Operation),
      cursor ∈ runAll history earlier →
      after ∈ runAll afterwards (cursor.restore foreign.mark) →
      after.restore earlier.mark = earlier := by
  have noBoundary : ¬Text.IsBoundary (cursor.restore foreign.mark).source
      (cursor.restore foreign.mark).offset :=
    (Text.not_isBoundary_iff _ _).mpr misplaced
  have nothingRemains := remaining_eq_nil_of_not_isBoundary noBoundary
  refine ⟨isFrozen_of_eq_nil nothingRemains, ?_, ?_⟩
  · intro beyond form
    have atEnd : (cursor.restore foreign.mark).isAtEnd := decide_eq_true (Nat.le_of_lt beyond)
    exact scan_of_eq_nil nothingRemains fun _ _ => atEnd
  · intro earlier after history afterwards leadsHere leadsOn
    have sourceHere := source_of_mem_runAll leadsHere
    have sourceBehind := source_of_mem_runAll leadsOn
    exact restore_mark_of_source_eq (sourceBehind.trans sourceHere)

/-- A cursor in front of a letter of two bytes returns to marks of two other sources, into the
letter and behind it, and from there to its start. -/
theorem isFrozen_restore_accented :
    ((start "xé".toList).advance.2.restore ((start "abc".toList).advanceBy 2).mark).IsFrozen ∧
    ((start "xé".toList).advance.2.restore ((start "a\nbcd".toList).advanceBy 4).mark).scan
        .blockComment =
      .some (⟨.blockComment, some 0⟩, ⟨"xé".toList, 4, ⟨2, 3⟩⟩) ∧
    ∃ after,
      after ∈ runAll [.forward (.read .number), .back ⟨9, Location.start⟩]
        ((start "xé".toList).advance.2.restore ((start "abc".toList).advanceBy 2).mark) ∧
      after.restore (start "xé".toList).mark = start "xé".toList := by
  have inside := isFrozen_restore (start "xé".toList).advance.2 ((start "abc".toList).advanceBy 2)
    (.inr ⟨['x'], 'é', [], rfl, by decide, by decide⟩)
  have behind := isFrozen_restore (start "xé".toList).advance.2
    ((start "a\nbcd".toList).advanceBy 4) (.inl (by decide))
  have leadsHere : (start "xé".toList).advance.2 ∈
      runAll [.forward .advance] (start "xé".toList) := by
    rw [runAll, Operation.run, Move.goOn, Part.bind_some]
    exact Part.mem_some _
  have leadsOn : ⟨"xé".toList, 9, Location.start⟩ ∈
      runAll [.forward (.read .number), .back ⟨9, Location.start⟩]
        ((start "xé".toList).advance.2.restore ((start "abc".toList).advanceBy 2).mark) := by
    rw [runAll, Operation.run, Move.goOn, inside.1.scan_eq .number rfl, Part.map_some,
      Part.bind_some, runAll, Operation.run, Part.bind_some]
    exact Part.mem_some _
  exact ⟨inside.1, behind.2.1 (by decide) .blockComment, _, leadsOn,
    inside.2.2 _ _ _ _ leadsHere leadsOn⟩

end Cursor
end SqlLexer
