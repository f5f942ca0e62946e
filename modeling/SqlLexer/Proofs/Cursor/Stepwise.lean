import SqlLexer.Proofs.Cursor.Remaining
import SqlLexer.Proofs.Loop

/-!
# Moving a cursor step by step

A cursor consumes a stretch of text character by character, looking at where it stands before each
step.  Such a loop ends where nothing is left to look at, if the cursor has come to the end of its
source or the null character stops the loop, and then it has consumed the stretch.
-/

namespace SqlLexer
namespace Cursor

/-! ## Looking and stepping -/

variable {cursor : Cursor} {c : Char} {rest taken : Text}

theorem current_of_eq_cons (ahead : cursor.remaining = c :: rest) : cursor.current = c := by
  simp [current, peekAt, ahead]

theorem current_of_eq_nil (ahead : cursor.remaining = []) : cursor.current = '\x00' := by
  simp [current, peekAt, ahead]

/-- A character other than the null character is seen where it is ahead. -/
theorem current_eq_iff (notNull : c ≠ '\x00') :
    cursor.current = c ↔ cursor.remaining.head? = some c := by
  cases ahead : cursor.remaining with
  | nil =>
      rw [current_of_eq_nil ahead, List.head?_nil]
      exact ⟨fun isNull => absurd isNull.symm notNull, fun isHead => absurd isHead (by simp)⟩
  | cons d rest => rw [current_of_eq_cons ahead, List.head?_cons, Option.some.injEq]

theorem peekAt_eq_headD (cursor : Cursor) (places : Nat) :
    cursor.peekAt places = (cursor.remaining.drop places).headD '\x00' := by
  simp [peekAt, List.headD_eq_head?_getD, List.head?_drop]

theorem peek_of_eq_cons {c : Char} {rest : Text} (ahead : cursor.remaining = c :: rest) :
    cursor.peek = rest.headD '\x00' := by
  rw [peek, peekAt_eq_headD, ahead]
  rfl

theorem advance_of_eq_cons (ahead : cursor.remaining = c :: rest) :
    cursor.advance = (some c, cursor.pass [c]) := by
  rw [advance, ahead]

theorem advance_of_eq_nil (ahead : cursor.remaining = []) : cursor.advance = (none, cursor) := by
  rw [advance, ahead]

theorem remaining_pass_cons (ahead : cursor.remaining = c :: rest) :
    (cursor.pass [c]).remaining = rest :=
  remaining_pass ahead

theorem pass_pass_cons (cursor : Cursor) (c : Char) (rest : Text) :
    (cursor.pass [c]).pass rest = cursor.pass (c :: rest) :=
  (pass_append cursor [c] rest).symm

/-- A cursor that passes over an initial part of what remains leaves the text behind that part. -/
theorem remaining_pass_initial (initial : taken <+: cursor.remaining) :
    (cursor.pass taken).remaining = cursor.remaining.drop taken.length :=
  remaining_pass (List.prefix_iff_eq_append.mp initial).symm

/-- A cursor that is at the end of its source when nothing remains, as it is not at an offset within
a character. -/
def IsSteady (cursor : Cursor) : Prop :=
  cursor.remaining = [] → cursor.isAtEnd

/-- A cursor with text before it has not come to the end. -/
theorem isAtEnd_of_eq_cons (ahead : cursor.remaining = c :: rest) : cursor.isAtEnd = false := by
  obtain ⟨before, source, offset⟩ := exists_source_eq (ahead ▸ List.cons_ne_nil c rest)
  have positive := c.utf8Size_pos
  rw [isAtEnd, source, offset, ahead, decide_eq_false_iff_not, Text.byteLength_append,
    Text.byteLength_cons]
  omega

/-- A cursor with text before it does not stand within a character. -/
theorem isSteady_of_eq_cons (ahead : cursor.remaining = c :: rest) : cursor.IsSteady := by
  intro nothingRemains
  rw [ahead] at nothingRemains
  contradiction

/-- A cursor that has read something has not come to a stop within a character. -/
theorem isSteady_pass (ahead : cursor.remaining = taken ++ rest) (nonempty : taken ≠ []) :
    (cursor.pass taken).IsSteady := by
  intro atEnd
  have someLeft : cursor.remaining ≠ [] := by
    rw [ahead]
    exact List.append_ne_nil_of_left_ne_nil nonempty rest
  obtain ⟨before, source, offset⟩ := exists_source_eq someLeft
  rw [remaining_pass ahead] at atEnd
  rw [isAtEnd, decide_eq_true_eq]
  change Text.byteLength cursor.source ≤ cursor.offset + Text.byteLength taken
  rw [source, offset, ahead, atEnd, List.append_nil, Text.byteLength_append]

theorem isSteady_pass_cons (ahead : cursor.remaining = c :: rest) : (cursor.pass [c]).IsSteady :=
  isSteady_pass ahead (List.cons_ne_nil c [])

/-! ## A number of characters -/

/-- Consumes one character after the other, until there are enough or none is left. -/
def advanceEach : Nat → Cursor → Cursor
  | 0, cursor => cursor
  | count + 1, cursor =>
      match cursor.advance with
      | (none, stopped) => stopped
      | (some _, moved) => advanceEach count moved

/-- A number of characters are consumed one by one. -/
theorem advanceEach_eq (count : Nat) (cursor : Cursor) :
    cursor.advanceEach count = cursor.advanceBy count := by
  induction count generalizing cursor with
  | zero => rfl
  | succ count inductionHypothesis =>
      cases ahead : cursor.remaining with
      | nil => rw [advanceEach, advance_of_eq_nil ahead, advanceBy, ahead, List.take_nil, pass_nil]
      | cons c rest =>
          rw [advanceEach, advance_of_eq_cons ahead]
          dsimp only
          rw [inductionHypothesis, advanceBy, advanceBy, remaining_pass_cons ahead, pass_pass_cons,
            ahead, List.take_succ_cons]

theorem remaining_advanceBy (count : Nat) (cursor : Cursor) :
    (cursor.advanceBy count).remaining = cursor.remaining.drop count :=
  remaining_pass (List.take_append_drop count cursor.remaining).symm

theorem advance_snd (cursor : Cursor) : cursor.advance.2 = cursor.advanceBy 1 := by
  cases ahead : cursor.remaining with
  | nil => rw [advance_of_eq_nil ahead, advanceBy, ahead, List.take_nil, pass_nil]
  | cons c rest =>
      rw [advance_of_eq_cons ahead, advanceBy, ahead, List.take_succ_cons, List.take_zero]

/-- Two characters are consumed at once where two are ahead. -/
theorem advanceEach_two {c d : Char} {rest : Text} (ahead : cursor.remaining = c :: d :: rest) :
    cursor.advanceEach 2 = cursor.pass [c, d] := by
  rw [advanceEach_eq, advanceBy, ahead]
  rfl

theorem isSteady_advanceBy (count : Nat) (steady : cursor.IsSteady) :
    (cursor.advanceBy count).IsSteady := by
  cases taken : cursor.remaining.take count with
  | nil => rwa [advanceBy, taken, pass_nil]
  | cons c rest =>
      rw [advanceBy]
      refine isSteady_pass (List.take_append_drop count cursor.remaining).symm ?_
      rw [taken]
      exact List.cons_ne_nil c rest

/-! ## Characters of a kind -/

/-- A loop that passes over a text where another text is passed over from then on. -/
theorem loop_eq_pass
    {step : Cursor → Cursor ⊕ Cursor}
    (goesOn : step cursor = .inr (cursor.pass taken))
    (behind : loop step (cursor.pass taken) = .some ((cursor.pass taken).pass rest)) :
    loop step cursor = .some (cursor.pass (taken ++ rest)) := by
  rw [loop_of_inr goesOn, behind, pass_append]

section

variable {condition : Char → Bool}

/-- Consumes a character, unless the end of the source is reached or the current character does not
satisfy a condition. -/
def whileStep (condition : Char → Bool) (cursor : Cursor) : Cursor ⊕ Cursor :=
  if !cursor.isAtEnd && condition cursor.current then .inr cursor.advance.2 else .inl cursor

/-- Consumes one character after the other, as long as they satisfy a condition. -/
def goOnWhile (condition : Char → Bool) : Cursor → Part Cursor :=
  loop (whileStep condition)

theorem whileStep_of_isAtEnd (atEnd : cursor.isAtEnd) :
    whileStep condition cursor = .inl cursor := by
  rw [whileStep, atEnd]
  rfl

theorem whileStep_of_stops (stops : condition cursor.current = false) :
    whileStep condition cursor = .inl cursor := by
  rw [whileStep, stops, Bool.and_false]
  rfl

theorem whileStep_of_eq_cons (ahead : cursor.remaining = c :: rest) (goesOn : condition c) :
    whileStep condition cursor = .inr (cursor.pass [c]) := by
  rw [whileStep, isAtEnd_of_eq_cons ahead, current_of_eq_cons ahead, goesOn,
    advance_of_eq_cons ahead]
  rfl

/-- The loop ends behind the last of the characters that satisfy the condition, unless the null
character satisfies it and the cursor stands within a character. -/
theorem goOnWhile_eq (stops : condition '\x00' → cursor.IsSteady) :
    cursor.goOnWhile condition = .some (cursor.advanceWhile condition) := by
  induction ahead : cursor.remaining generalizing cursor with
  | nil =>
      rw [advanceWhile, ahead, List.takeWhile_nil, pass_nil]
      cases goesOn : condition '\x00' with
      | false =>
          rw [← current_of_eq_nil ahead] at goesOn
          exact loop_of_inl (whileStep_of_stops goesOn)
      | true => exact loop_of_inl (whileStep_of_isAtEnd (stops goesOn ahead))
  | cons c rest inductionHypothesis =>
      by_cases goesOn : condition c
      · have behind := inductionHypothesis (fun _ => isSteady_pass_cons ahead)
          (remaining_pass_cons ahead)
        rw [advanceWhile, remaining_pass_cons ahead] at behind
        rw [advanceWhile, ahead, List.takeWhile_cons_of_pos goesOn]
        exact loop_eq_pass (whileStep_of_eq_cons ahead goesOn) behind
      · rw [advanceWhile, ahead, List.takeWhile_cons_of_neg goesOn, pass_nil]
        rw [Bool.not_eq_true, ← current_of_eq_cons ahead] at goesOn
        exact loop_of_inl (whileStep_of_stops goesOn)

/-- A loop that the null character stops ends at every cursor. -/
theorem goOnWhile_of_stops (stops : condition '\x00' = false) :
    cursor.goOnWhile condition = .some (cursor.advanceWhile condition) := by
  refine goOnWhile_eq fun goesOn => ?_
  rw [stops] at goesOn
  contradiction

/-- Within a character, a loop that the null character does not stop goes on for ever. -/
theorem goOnWhile_eq_none (goesOn : condition '\x00') (unsteady : ¬cursor.IsSteady) :
    cursor.goOnWhile condition = .none := by
  obtain ⟨ahead, notAtEnd⟩ := Classical.not_imp.mp unsteady
  refine loop_eq_none ?_
  rw [Bool.not_eq_true] at notAtEnd
  rw [whileStep, notAtEnd, current_of_eq_nil ahead, goesOn, advance_of_eq_nil ahead]
  rfl

end

/-! ## Up to an offset -/

/-- Consumes a character, unless a byte offset is reached or there is none. -/
def toStep (target : Nat) (cursor : Cursor) : Cursor ⊕ Cursor :=
  if cursor.offset < target then
    match cursor.advance with
    | (none, stopped) => .inl stopped
    | (some _, moved) => .inr moved
  else .inl cursor

/-- Consumes one character after the other, until a byte offset is reached. -/
def goOnTo (target : Nat) : Cursor → Part Cursor :=
  loop (toStep target)

/-- A text ahead is consumed on the way to the offset behind it. -/
theorem goOnTo_eq
    {target : Nat}
    (ahead : cursor.remaining = taken ++ rest)
    (behind : target = cursor.offset + Text.byteLength taken) :
    cursor.goOnTo target = .some (cursor.pass taken) := by
  induction taken generalizing cursor with
  | nil =>
      have reached : ¬cursor.offset < target := by
        rw [behind, Text.byteLength_nil]
        omega
      exact loop_of_inl (if_neg reached)
  | cons c taken inductionHypothesis =>
      have positive := c.utf8Size_pos
      have notReached : cursor.offset < target := by
        rw [behind, Text.byteLength_cons]
        omega
      have step : toStep target cursor = .inr (cursor.pass [c]) := by
        rw [toStep, if_pos notReached, advance_of_eq_cons ahead]
      have behindRest : target = (cursor.pass [c]).offset + Text.byteLength taken := by
        rw [behind, Text.byteLength_cons, ← Nat.add_assoc]
        rfl
      exact loop_eq_pass step (inductionHypothesis (remaining_pass_cons ahead) behindRest)

end Cursor
end SqlLexer
