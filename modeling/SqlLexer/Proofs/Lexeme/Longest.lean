import Mathlib.Data.List.TakeWhile
import SqlLexer.Proofs.Lexeme.Initial

/-!
# Longest matches

Some lexemes are the longest initial part of the text that belongs to a language.  There is at
most one such part.  For the operators the language is the table, less what would run into a
comment.
-/

namespace SqlLexer

/-- The longest initial part of a text that belongs to a language. -/
structure IsLongest (language : Text → Prop) (text word : Text) : Prop where
  belongs : language word
  initial : word <+: text
  longest : ∀ other, language other → other <+: text → other.length ≤ word.length

/-- A language has only one longest word at the head of a text. -/
theorem IsLongest.unique
    {language : Text → Prop}
    {text first second : Text}
    (isFirst : IsLongest language text first)
    (isSecond : IsLongest language text second) :
    first = second := by
  have shorter := isSecond.longest first isFirst.belongs isFirst.initial
  have longer := isFirst.longest second isSecond.belongs isSecond.initial
  exact (List.prefix_of_prefix_length_le isFirst.initial isSecond.initial shorter).eq_of_length
    (Nat.le_antisymm shorter longer)

/-- Characters of one class at the head of a text lie in its longest run of that class. -/
theorem isPrefix_takeWhile
    {condition : Char → Bool}
    {word text : Text}
    (all : ∀ c ∈ word, condition c)
    (here : word <+: text) :
    word <+: text.takeWhile condition := by
  obtain ⟨rest, rfl⟩ := here
  rw [List.takeWhile_append_of_pos all]
  exact List.prefix_append word _

/-- Two parts read one after the other are longest together, if each is the longest and a first
part that stops too early leaves nothing for a second one. -/
theorem length_append_le_of_longest
    {shorter first beyond second rest : Text}
    (within : shorter <+: first)
    (here : shorter ++ beyond <+: first ++ rest)
    (longest : beyond <+: rest → beyond.length ≤ second.length)
    (stuck : ∀ c ∈ first, c ∉ beyond.head?) :
    (shorter ++ beyond).length ≤ (first ++ second).length := by
  obtain ⟨missed, rfl⟩ := within
  rw [List.append_assoc, List.prefix_append_right_inj] at here
  cases missed with
  | nil =>
      have fits := longest here
      simp only [List.length_append, List.append_nil]
      omega
  | cons c missed =>
      cases beyond with
      | nil =>
          simp only [List.length_append, List.length_nil]
          omega
      | cons d beyond =>
          obtain ⟨rfl, _⟩ := List.cons_prefix_cons.mp here
          exact absurd rfl (stuck d (by simp))

namespace Lexeme

/-- The table lists longer operators first. -/
theorem operators_longestFirst :
    operators.Pairwise fun first second => second.length ≤ first.length := by
  decide

theorem operators_spaceless : ∀ operator ∈ operators, ' ' ∉ operator := by
  decide

/-- The operators that may be read at the head of a text. -/
def Admitted (text operator : Text) : Prop :=
  operator ∈ operators ∧ admits text operator

theorem Admitted.initial
    {text operator : Text}
    (admitted : Admitted text operator) :
    operator <+: text := by
  have admits := admitted.2
  rw [Lexeme.admits, Bool.and_eq_true] at admits
  exact List.isPrefixOf_iff_prefix.mp admits.1

/-- No operator is found exactly when none may be read. -/
theorem longestOperator?_eq_none_iff (text : Text) :
    longestOperator? text = none ↔ ∀ operator, ¬Admitted text operator := by
  rw [longestOperator?, List.find?_eq_none]
  constructor
  · rintro none operator ⟨member, admitted⟩
    exact none operator member admitted
  · intro none operator member admitted
    exact none operator ⟨member, admitted⟩

/-- The operator found in the table is the longest one that may be read. -/
theorem longestOperator?_eq_some_iff (text operator : Text) :
    longestOperator? text = some operator ↔ IsLongest (Admitted text) text operator := by
  have isLongest : ∀ found, longestOperator? text = some found →
      IsLongest (Admitted text) text found := by
    intro found search
    obtain ⟨admitted, before, after, table, passed⟩ := List.find?_eq_some_iff_append.mp search
    refine ⟨⟨List.mem_of_find?_eq_some search, admitted⟩, longestOperator?_initial search, ?_⟩
    rintro other ⟨member, otherAdmitted⟩ _
    have ordered := operators_longestFirst
    rw [table] at member ordered
    rcases List.mem_append.mp member with inBefore | inRest
    · have refused := passed other inBefore
      simp [otherAdmitted] at refused
    · rcases List.mem_cons.mp inRest with rfl | inAfter
      · exact Nat.le_refl _
      · exact (List.pairwise_cons.mp (List.pairwise_append.mp ordered).2.1).1 other inAfter
  refine ⟨isLongest operator, fun longest => ?_⟩
  cases search : longestOperator? text with
  | none => exact absurd longest.belongs ((longestOperator?_eq_none_iff text).mp search operator)
  | some found => rw [(isLongest found search).unique longest]

end Lexeme
end SqlLexer
