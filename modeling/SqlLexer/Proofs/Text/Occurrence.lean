import Mathlib.Data.List.Infix
import SqlLexer.Text.Bytes

/-!
# First occurrences

The search for a mark in a text takes the part through the first occurrence, or the whole text
where the mark does not occur.  What follows the first occurrence has no influence on where it is.
-/

namespace SqlLexer
namespace Text

/-- A text cut around the first occurrence of a mark: no other one starts further ahead. -/
structure IsCutAtFirst (mark text before after : Text) : Prop where
  split : text = before ++ (mark ++ after)
  first : ∀ earlier later, text = earlier ++ (mark ++ later) → before.length ≤ earlier.length

namespace IsCutAtFirst

variable {mark text before after : Text}

/-- A mark at the head of a text occurs there first. -/
theorem nil (mark after : Text) : IsCutAtFirst mark (mark ++ after) [] after :=
  ⟨rfl, fun _ _ _ => Nat.zero_le _⟩

/-- The first occurrence stays the first when a character at which no mark starts is put in
front. -/
theorem cons
    {c : Char}
    (cut : IsCutAtFirst mark text before after)
    (absent : ¬mark <+: c :: text) :
    IsCutAtFirst mark (c :: text) (c :: before) after where
  split := by rw [cut.split, List.cons_append]
  first := by
    intro earlier later occurs
    cases earlier with
    | nil => exact absurd ⟨later, occurs.symm⟩ absent
    | cons d earlier =>
        have shorter := cut.first earlier later (List.cons.inj occurs).2
        exact Nat.succ_le_succ shorter

/-- The first occurrence stays the first whatever follows it. -/
theorem replace
    (cut : IsCutAtFirst mark text before after)
    (other : Text) :
    IsCutAtFirst mark (before ++ (mark ++ other)) before other where
  split := rfl
  first := by
    intro earlier later occurs
    by_contra further
    -- An occurrence that starts further ahead ends before the first one does, so it lies in the
    -- text already.
    have fits : (earlier ++ mark).length ≤ (before ++ mark).length := by
      simp only [List.length_append]
      omega
    have here : earlier ++ mark <+: before ++ (mark ++ other) :=
      ⟨later, by rw [occurs, List.append_assoc]⟩
    rw [← List.append_assoc] at here
    obtain ⟨rest, inside⟩ :=
      List.prefix_of_prefix_length_le here (List.prefix_append (before ++ mark) other) fits
    have occursAlready : text = earlier ++ (mark ++ (rest ++ after)) := by
      rw [cut.split, ← List.append_assoc, ← inside]
      simp only [List.append_assoc]
    exact further (cut.first earlier (rest ++ after) occursAlready)

/-- A text is read through the first occurrence of the mark. -/
theorem throughFirst_eq
    (cut : IsCutAtFirst mark text before after) :
    throughFirst mark text = before ++ mark := by
  induction before generalizing text with
  | nil =>
      have here : mark <+: text := ⟨after, cut.split.symm⟩
      cases text with
      | nil => rw [List.prefix_nil.mp here, throughFirst_nil, List.nil_append]
      | cons c rest =>
          rw [throughFirst_cons, if_pos (List.isPrefixOf_iff_prefix.mpr here), List.nil_append]
  | cons c before inductionHypothesis =>
      obtain ⟨rest, rfl⟩ : ∃ rest, text = c :: rest := ⟨_, cut.split⟩
      have absent : ¬mark.isPrefixOf (c :: rest) := by
        intro here
        obtain ⟨later, occurs⟩ := List.isPrefixOf_iff_prefix.mp here
        exact absurd (cut.first [] later occurs.symm) (Nat.not_succ_le_zero _)
      have inRest : IsCutAtFirst mark rest before after := by
        refine ⟨(List.cons.inj cut.split).2, fun earlier later occurs => ?_⟩
        exact Nat.le_of_succ_le_succ (cut.first (c :: earlier) later (congrArg (c :: ·) occurs))
      rw [throughFirst_cons, if_neg absent, inductionHypothesis inRest, List.cons_append]

end IsCutAtFirst

/-- A text is cut around the first occurrence of a mark, or the mark does not occur in it and the
whole text is read. -/
theorem isCutAtFirst_or_throughFirst_eq (mark text : Text) :
    (∃ before after, IsCutAtFirst mark text before after) ∨
      ¬mark <:+: text ∧ throughFirst mark text = text := by
  induction text with
  | nil =>
      by_cases empty : mark = []
      · subst empty
        exact .inl ⟨[], [], .nil [] []⟩
      · exact .inr ⟨fun occurs => empty (List.infix_nil.mp occurs), rfl⟩
  | cons c rest inductionHypothesis =>
      by_cases here : mark <+: c :: rest
      · obtain ⟨after, split⟩ := here
        rw [← split]
        exact .inl ⟨[], after, .nil mark after⟩
      · rcases inductionHypothesis with ⟨before, after, cut⟩ | ⟨absent, whole⟩
        · exact .inl ⟨c :: before, after, cut.cons here⟩
        · refine .inr ⟨fun occurs => ?_, ?_⟩
          · exact (List.infix_cons_iff.mp occurs).elim here absent
          · rw [throughFirst_cons, if_neg (mt List.isPrefixOf_iff_prefix.mp here), whole]

/-! ## Offsets -/

/-- The byte offset at which a mark first occurs in a text. -/
def find? (mark : Text) : Text → Option Nat
  | [] => if mark.isEmpty then some 0 else none
  | c :: rest =>
      if mark.isPrefixOf (c :: rest) then some 0
      else (find? mark rest).map (c.utf8Size + ·)

/-- A mark is found at the length of the text in front of its first occurrence. -/
theorem exists_isCutAtFirst_of_find?
    {mark text : Text}
    {distance : Nat}
    (found : find? mark text = some distance) :
    ∃ before after, IsCutAtFirst mark text before after ∧ distance = byteLength before := by
  fun_induction find? mark text generalizing distance with
  | case1 isEmpty =>
      cases found
      rw [List.isEmpty_iff] at isEmpty
      subst isEmpty
      exact ⟨[], [], .nil [] [], rfl⟩
  | case2 => cases found
  | case3 c rest here =>
      cases found
      obtain ⟨after, split⟩ := List.isPrefixOf_iff_prefix.mp here
      rw [← split]
      exact ⟨[], after, .nil mark after, rfl⟩
  | case4 c rest absent inductionHypothesis =>
      obtain ⟨distance, inRest, rfl⟩ := Option.map_eq_some_iff.mp found
      obtain ⟨before, after, cut, rfl⟩ := inductionHypothesis inRest
      exact ⟨c :: before, after, cut.cons (mt List.isPrefixOf_iff_prefix.mpr absent), rfl⟩

theorem throughFirst_of_find?_eq_none {mark text : Text} (missing : find? mark text = none) :
    throughFirst mark text = text := by
  induction text with
  | nil => rfl
  | cons c rest inductionHypothesis =>
      rw [find?] at missing
      split at missing
      · cases missing
      · rename_i absent
        rw [throughFirst_cons, if_neg absent,
          inductionHypothesis (Option.map_eq_none_iff.mp missing)]

end Text
end SqlLexer
