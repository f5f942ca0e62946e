import Mathlib.Data.List.TakeWhile
import SqlLexer.Proofs.Text.Occurrence

/-!
# Reading up to a stop

Runs of characters, quoted texts and comments are as long as what is written in them.  Each of them
is read up to a stop, or to the end of the text where nothing stops it.  Of what lies behind a stop
only the next character matters.
-/

namespace SqlLexer
namespace Text

/-- A reader stops behind a part of a text.  It stops there in front of every text but those that
start with a character with which the part goes on. -/
structure IsStop
    (read : Text → Text)
    (goesOn : Char → Bool)
    (text inside after : Text) : Prop where
  split : text = inside ++ after
  next : ∀ c ∈ after.head?, goesOn c = false
  read_append : ∀ other, (∀ c ∈ other.head?, goesOn c = false) → read (inside ++ other) = inside

/-- Readers that stop behind a part of a text or take all of it. -/
def Stops (read : Text → Text) (goesOn : Char → Bool) : Prop :=
  ∀ text, read text = text ∨ ∃ inside after, IsStop read goesOn text inside after

variable {read : Text → Text} {goesOn : Char → Bool}

namespace IsStop

variable {text inside after : Text}

theorem read_eq (stop : IsStop read goesOn text inside after) : read text = inside := by
  rw [stop.split]
  exact stop.read_append after stop.next

/-- A reader that passes over a front and leaves the rest to another one stops where that one
does. -/
theorem front
    {outer : Text → Text}
    (stop : IsStop read goesOn text inside after)
    (start : Text)
    (passes : ∀ other, outer (start ++ (inside ++ other)) = start ++ read (inside ++ other)) :
    IsStop outer goesOn (start ++ text) (start ++ inside) after where
  split := by rw [stop.split, List.append_assoc]
  next := stop.next
  read_append := by
    intro other apart
    rw [List.append_assoc, passes, stop.read_append other apart]

end IsStop

namespace Stops

theorem initial (stops : Stops read goesOn) (text : Text) : read text <+: text := by
  rcases stops text with whole | ⟨inside, after, stop⟩
  · rw [whole]
  · rw [stop.read_eq, stop.split]
    exact List.prefix_append inside after

/-- Behind what is read stands no character with which reading goes on. -/
theorem goesOn_eq_false
    {text after : Text}
    (stops : Stops read goesOn)
    (split : read text ++ after = text) :
    ∀ c ∈ after.head?, goesOn c = false := by
  rcases stops text with whole | ⟨inside, behind, stop⟩
  · rw [whole, List.append_right_eq_self] at split
    simp [split]
  · rw [stop.read_eq, stop.split] at split
    rw [List.append_cancel_left split]
    exact stop.next

/-- A reader that stops within a text stops there whatever follows the text. -/
theorem append_of_ne
    {text : Text}
    (stops : Stops read goesOn)
    (within : read text ≠ text)
    (more : Text) :
    read (text ++ more) = read text := by
  obtain ⟨inside, after, stop⟩ := (stops text).resolve_left within
  have apart : ∀ c ∈ (after ++ more).head?, goesOn c = false := by
    cases after with
    | nil =>
        have whole : text = inside := stop.split.trans (List.append_nil inside)
        exact absurd (stop.read_eq.trans whole.symm) within
    | cons c rest => exact stop.next
  rw [stop.read_eq, stop.split, List.append_assoc, stop.read_append _ apart]

/-- What is read in front of a cut does not depend on what is behind the cut. -/
theorem cut
    {before after other : Text}
    (stops : Stops read goesOn)
    (apart : ∀ c ∈ other.head?, goesOn c = false)
    (ends : after = [] → other = [])
    (fits : (read (before ++ after)).length ≤ before.length) :
    read (before ++ other) = read (before ++ after) := by
  rcases stops (before ++ after) with whole | ⟨inside, behind, stop⟩
  · have nothing : after = [] := by
      rw [whole, List.length_append] at fits
      exact List.eq_nil_of_length_eq_zero (by omega)
    rw [nothing, ends nothing]
  · rw [stop.read_eq] at fits ⊢
    have here : inside <+: before ++ after := ⟨behind, stop.split.symm⟩
    obtain ⟨rest, rfl⟩ :=
      List.prefix_of_prefix_length_le here (List.prefix_append before after) fits
    rw [List.append_assoc]
    apply stop.read_append
    cases rest with
    | nil => exact apart
    | cons c rest =>
        have split := stop.split
        rw [List.append_assoc] at split
        have next := stop.next
        rwa [← List.append_cancel_left split] at next

/-- A reader that first passes over some characters stops where it would stop behind them. -/
theorem behind
    {outer : Text → Text}
    {count : Nat}
    (stops : Stops read goesOn)
    (passes : ∀ text, outer text = text.take count ++ read (text.drop count)) :
    Stops outer goesOn := by
  intro text
  have whole := List.take_append_drop count text
  rcases stops (text.drop count) with all | ⟨inside, after, stop⟩
  · exact .inl (by rw [passes, all, whole])
  rcases Nat.lt_or_ge text.length count with short | long
  · have nothing : text.drop count = [] := List.drop_of_length_le (Nat.le_of_lt short)
    obtain ⟨rfl, _⟩ := List.append_eq_nil_iff.mp (stop.split.symm.trans nothing)
    refine .inl ?_
    rw [passes, stop.read_eq, List.append_nil]
    exact List.take_of_length_le (Nat.le_of_lt short)
  · have size : (text.take count).length = count := List.length_take_of_le long
    have shifted : IsStop outer goesOn (text.take count ++ text.drop count)
        (text.take count ++ inside) after :=
      stop.front _ fun other => by rw [passes, List.take_left' size, List.drop_left' size]
    rw [whole] at shifted
    exact .inr ⟨_, _, shifted⟩

end Stops

/-! ## Readers of every kind of text -/

theorem takeWhile_stops (condition : Char → Bool) :
    Stops (List.takeWhile condition) condition := by
  intro text
  refine .inr ⟨text.takeWhile condition, text.dropWhile condition, ?_, ?_, ?_⟩
  · exact List.takeWhile_append_dropWhile.symm
  · intro c isNext
    have refused := List.head?_dropWhile_not condition text
    rw [isNext] at refused
    simpa using refused
  · intro other apart
    rw [List.takeWhile_append_of_pos fun _ => List.mem_takeWhile_imp]
    cases other with
    | nil => exact List.append_nil _
    | cons c rest => rw [List.takeWhile_cons_of_neg (by simp [apart c rfl]), List.append_nil]

theorem throughFirst_stops (mark : Text) : Stops (throughFirst mark) fun _ => false := by
  intro text
  rcases isCutAtFirst_or_throughFirst_eq mark text with ⟨before, after, cut⟩ | ⟨_, whole⟩
  · refine .inr ⟨before ++ mark, after, ?_, fun _ _ => rfl, ?_⟩
    · rw [cut.split, List.append_assoc]
    · intro other _
      rw [List.append_assoc, (cut.replace other).throughFirst_eq]
  · exact .inl whole

end Text
end SqlLexer
