import SqlLexer.Text.Basic

/-!
# Lines

A text of lines ends each of them with a line feed.  Its lines are determined by it, and there are
as many of them as line feeds.
-/

namespace SqlLexer
namespace Text

/-- A text that consists of lines, each ended by the next line feed. -/
structure HasLines (text : Text) (lines : List Text) : Prop where
  spelled : text = lines.flatMap fun line => line ++ ['\n']
  unbroken : ∀ line ∈ lines, '\n' ∉ line

namespace HasLines

theorem nil : HasLines [] [] :=
  ⟨rfl, List.forall_mem_nil _⟩

theorem single
    {line : Text}
    (unbroken : '\n' ∉ line) :
    HasLines (line ++ ['\n']) [line] :=
  ⟨by simp, by simpa using unbroken⟩

theorem append
    {first second : Text}
    {lines others : List Text}
    (hasLines : first.HasLines lines)
    (hasOthers : second.HasLines others) :
    (first ++ second).HasLines (lines ++ others) :=
  ⟨by rw [hasLines.spelled, hasOthers.spelled, List.flatMap_append],
    List.forall_mem_append.mpr ⟨hasLines.unbroken, hasOthers.unbroken⟩⟩

/-- Texts in a row that consist of one line each. -/
theorem flatMap
    {α : Type}
    {items : List α}
    {entry : α → Text}
    (unbroken : ∀ item ∈ items, '\n' ∉ entry item) :
    HasLines (items.flatMap fun item => entry item ++ ['\n']) (items.map entry) :=
  ⟨by rw [List.flatMap_map], by simpa using unbroken⟩

theorem takeWhile_line
    {line : Text}
    (unbroken : '\n' ∉ line)
    (behind : Text) :
    (line ++ '\n' :: behind).takeWhile (· ≠ '\n') = line := by
  rw [List.takeWhile_append_of_pos, List.takeWhile_cons_of_neg (by simp), List.append_nil]
  intro c member
  exact decide_eq_true fun isFeed => unbroken (isFeed ▸ member)

variable {text : Text} {lines others : List Text}

/-- There are as many lines as line feeds. -/
theorem length_eq (hasLines : text.HasLines lines) : lines.length = text.count '\n' := by
  obtain ⟨rfl, unbroken⟩ := hasLines
  induction lines with
  | nil => rfl
  | cons line rest inductionHypothesis =>
      rw [List.forall_mem_cons] at unbroken
      rw [List.flatMap_cons, List.count_append, List.count_append,
        List.count_eq_zero_of_not_mem unbroken.1, ← inductionHypothesis unbroken.2,
        List.length_cons]
      simp [Nat.add_comm]

/-- A text has no more than one row of lines. -/
theorem unique
    (hasLines : text.HasLines lines)
    (hasOthers : text.HasLines others) :
    lines = others := by
  obtain ⟨rfl, unbroken⟩ := hasLines
  obtain ⟨same, othersUnbroken⟩ := hasOthers
  induction lines generalizing others with
  | nil =>
      cases others with
      | nil => rfl
      | cons => simp at same
  | cons line rest inductionHypothesis =>
      cases others with
      | nil => simp at same
      | cons other otherRest =>
          rw [List.forall_mem_cons] at unbroken othersUnbroken
          simp only [List.flatMap_cons, List.append_assoc, List.singleton_append] at same
          have sameLine : line = other := by
            rw [← takeWhile_line unbroken.1, same, takeWhile_line othersUnbroken.1]
          subst sameLine
          have sameRest := (List.cons.inj (List.append_cancel_left same)).2
          rw [inductionHypothesis unbroken.2 sameRest othersUnbroken.2]

end HasLines

/-- What a line feed ends consists of lines. -/
theorem exists_hasLines (text : Text) : ∃ lines, (text ++ ['\n']).HasLines lines := by
  induction text with
  | nil => exact ⟨_, .single List.not_mem_nil⟩
  | cons c rest inductionHypothesis =>
      obtain ⟨lines, hasLines⟩ := inductionHypothesis
      by_cases isFeed : c = '\n'
      · subst isFeed
        exact ⟨[] :: lines, HasLines.append (.single List.not_mem_nil) hasLines⟩
      · obtain ⟨spelled, unbroken⟩ := hasLines
        cases lines with
        | nil => simp at spelled
        | cons line others =>
            rw [List.forall_mem_cons] at unbroken
            refine ⟨(c :: line) :: others, ?_, List.forall_mem_cons.mpr ⟨?_, unbroken.2⟩⟩
            · rw [List.cons_append, spelled, List.flatMap_cons, List.flatMap_cons,
                List.cons_append, List.cons_append]
            · exact List.not_mem_cons_of_ne_of_not_mem (Ne.symm isFeed) unbroken.1

/-- Texts in a row that each end with a line feed consist of lines. -/
theorem exists_hasLines_flatMap
    {α : Type}
    (items : List α)
    (entry : α → Text) :
    ∃ lines, HasLines (items.flatMap fun item => entry item ++ ['\n']) lines := by
  induction items with
  | nil => exact ⟨[], .nil⟩
  | cons item rest inductionHypothesis =>
      obtain ⟨lines, hasLines⟩ := exists_hasLines (entry item)
      obtain ⟨others, hasOthers⟩ := inductionHypothesis
      exact ⟨lines ++ others, hasLines.append hasOthers⟩

end Text
end SqlLexer
