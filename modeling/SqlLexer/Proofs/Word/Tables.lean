import Mathlib.Data.List.Chain
import SqlLexer.Proofs.Word.LetterCase
import SqlLexer.Word.DataTypes

/-!
# Tables of words

The tables of words are ascending, so a search that halves them finds each word that they have and
no other.
-/

namespace SqlLexer
namespace Word

/-! ## Ascending tables -/

namespace Table

/-- Each entry of an ascending table comes before all later ones in the order of words. -/
def IsAscending (table : Table) : Prop :=
  table.entries.toList.Pairwise (· < ·)

theorem IsAscending.lt
    {table : Table}
    {first second : Nat}
    {smaller larger : Text}
    (ascending : table.IsAscending)
    (before : first < second)
    (isSmaller : table.entries[first]? = some smaller)
    (isLarger : table.entries[second]? = some larger) :
    smaller < larger := by
  obtain ⟨firstInside, rfl⟩ := Array.getElem?_eq_some_iff.mp isSmaller
  obtain ⟨secondInside, rfl⟩ := Array.getElem?_eq_some_iff.mp isLarger
  exact List.pairwise_iff_getElem.mp ascending first second firstInside secondInside before

/-- Halving a part of an ascending table finds exactly the words in that part. -/
theorem IsAscending.containsBetween_iff
    {table : Table}
    {low high : Nat}
    (ascending : table.IsAscending)
    (inside : high ≤ table.entries.size)
    (word : Text) :
    containsBetween table.entries word low high ↔
      ∃ index, low ≤ index ∧ index < high ∧ table.entries[index]? = some word := by
  -- The word is in the half that is searched on, since all entries of the other one differ from
  -- it in the same direction as the entry in the middle.
  fun_induction containsBetween table.entries word low high with
  | case1 low high isOpen middle missing =>
      rw [Array.getElem?_eq_none_iff] at missing
      omega
  | case2 low high isOpen middle found =>
      exact ⟨fun _ => ⟨middle, by omega, by omega, found⟩, fun _ => rfl⟩
  | case3 low high isOpen middle entry found different smaller inductionHypothesis =>
      rw [inductionHypothesis inside]
      constructor
      · rintro ⟨index, afterMiddle, beforeHigh, isWord⟩
        exact ⟨index, by omega, beforeHigh, isWord⟩
      · rintro ⟨index, _, beforeHigh, isWord⟩
        refine ⟨index, ?_, beforeHigh, isWord⟩
        by_contra notAfter
        rcases Nat.lt_or_eq_of_le (Nat.le_of_not_lt notAfter) with before | rfl
        · have larger := ascending.lt before isWord found
          exact List.lt_irrefl _ (List.lt_trans smaller larger)
        · rw [found] at isWord
          exact different (Option.some.inj isWord)
  | case4 low high isOpen middle entry found different notSmaller inductionHypothesis =>
      rw [inductionHypothesis (by omega)]
      constructor
      · rintro ⟨index, afterLow, beforeMiddle, isWord⟩
        exact ⟨index, afterLow, by omega, isWord⟩
      · rintro ⟨index, afterLow, _, isWord⟩
        refine ⟨index, afterLow, ?_, isWord⟩
        by_contra notBefore
        rcases Nat.lt_or_eq_of_le (Nat.le_of_not_lt notBefore) with after | rfl
        · exact notSmaller (ascending.lt after found isWord)
        · rw [found] at isWord
          exact different (Option.some.inj isWord)
  | case5 low high isClosed =>
      constructor
      · intro found
        contradiction
      · rintro ⟨index, afterLow, beforeHigh, _⟩
        omega

/-- An ascending table has a word if the word in upper case is one of its entries. -/
theorem IsAscending.contains_iff
    {table : Table}
    (ascending : table.IsAscending)
    (word : Text) :
    table.contains word ↔ fold word ∈ table.entries := by
  rw [contains, ascending.containsBetween_iff (Nat.le_refl _), Array.mem_iff_getElem?]
  constructor
  · rintro ⟨index, _, _, isWord⟩
    exact ⟨index, isWord⟩
  · rintro ⟨index, isWord⟩
    exact ⟨index, Nat.zero_le _, (Array.getElem?_eq_some_iff.mp isWord).1, isWord⟩

/-- A table of ascending spellings has the words that are spelled so in upper case. -/
theorem contains_ofSpellings_iff
    {spellings : List String}
    (ascending : (spellings.map String.toList).IsChain (· < ·))
    (word : Text) :
    (ofSpellings spellings).contains word ↔
      ∃ spelling ∈ spellings, spelling.toList = fold word := by
  have isAscending : (ofSpellings spellings).IsAscending := List.isChain_iff_pairwise.mp ascending
  rw [isAscending.contains_iff, ofSpellings, List.mem_toArray, List.mem_map]

end Table

/-! ## The two tables -/

/-- The characters of the tables: capital letters, digits and the underscore. -/
def isEntryChar (c : Char) : Bool :=
  ('A' ≤ c && c ≤ 'Z') || isDigit c || c = '_'

theorem toUpper_of_isEntryChar {c : Char} (inEntry : isEntryChar c) : c.toUpper = c := by
  have noneSmall : smallLetters.all fun c => !isEntryChar c := by decide
  rcases toUpper_cases c with small | same
  · have notInEntry := List.all_eq_true.mp noneSmall c small
    rw [inEntry] at notInEntry
    contradiction
  · exact same

/-- The spellings of a table: ascending, not empty, and in upper case. -/
structure AreEntries (spellings : List String) : Prop where
  ascending : (spellings.map String.toList).IsChain (· < ·)
  plain : ∀ entry ∈ spellings.map String.toList, entry ≠ [] ∧ entry.all isEntryChar

namespace AreEntries

variable {spellings : List String} {entry : Text}

/-- The entries of a table are in upper case. -/
theorem fold_eq (entries : AreEntries spellings) (listed : entry ∈ spellings.map String.toList) :
    fold entry = entry := by
  have plain := List.all_eq_true.mp (entries.plain entry listed).2
  calc
    fold entry = entry.map id :=
      List.map_congr_left fun c inEntry => toUpper_of_isEntryChar (plain c inEntry)
    _ = entry := List.map_id entry

end AreEntries

theorem areEntries_keywordSpellings : AreEntries keywordSpellings := by
  have checked : (keywordSpellings.map String.toList).IsChain (· < ·) ∧
      ∀ entry ∈ keywordSpellings.map String.toList, entry ≠ [] ∧ entry.all isEntryChar := by
    decide +kernel
  exact ⟨checked.1, checked.2⟩

theorem areEntries_dataTypeSpellings : AreEntries dataTypeSpellings := by
  have checked : (dataTypeSpellings.map String.toList).IsChain (· < ·) ∧
      ∀ entry ∈ dataTypeSpellings.map String.toList, entry ≠ [] ∧ entry.all isEntryChar := by
    decide +kernel
  exact ⟨checked.1, checked.2⟩

/-- The keywords are the words that an entry spells in upper case. -/
theorem isKeyword_iff (word : Text) :
    isKeyword word ↔ ∃ spelling ∈ keywordSpellings, spelling.toList = fold word :=
  Table.contains_ofSpellings_iff areEntries_keywordSpellings.ascending word

theorem isDataType_iff (word : Text) :
    isDataType word ↔ ∃ spelling ∈ dataTypeSpellings, spelling.toList = fold word :=
  Table.contains_ofSpellings_iff areEntries_dataTypeSpellings.ascending word

/-- A keyword is a word that differs from one of the table in nothing but the case of its ASCII
letters. -/
theorem isKeyword_iff_fold_eq (word : Text) :
    isKeyword word ↔ ∃ spelling ∈ keywordSpellings, fold spelling.toList = fold word := by
  have inUpperCase {spelling : String} (listed : spelling ∈ keywordSpellings) :
      fold spelling.toList = spelling.toList :=
    areEntries_keywordSpellings.fold_eq (List.mem_map_of_mem listed)
  rw [isKeyword_iff]
  constructor
  · rintro ⟨spelling, listed, same⟩
    exact ⟨spelling, listed, (inUpperCase listed).trans same⟩
  · rintro ⟨spelling, listed, same⟩
    exact ⟨spelling, listed, (inUpperCase listed).symm.trans same⟩

end Word

end SqlLexer
