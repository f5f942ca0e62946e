import SqlLexer.Word.Fold

/-!
# Word tables

A table of upper-case words in ascending order, searched by bisection.
-/

namespace SqlLexer
namespace Word

/-- Upper-case words in ascending order. -/
structure Table where
  entries : Array Text

namespace Table

/-- The table of the given spellings, which are ascending and in upper case. -/
def ofSpellings (spellings : List String) : Table :=
  ⟨(spellings.map String.toList).toArray⟩

/-- Whether `word` is among the entries from `low` up to, but not including, `high`. -/
def containsBetween
    (entries : Array Text)
    (word : Text)
    (low high : Nat) : Bool :=
  if low < high then
    let middle := (low + high) / 2
    match entries[middle]? with
    | none => false
    | some entry =>
        if entry = word then true
        else if entry < word then containsBetween entries word (middle + 1) high
        else containsBetween entries word low middle
  else false
termination_by high - low

/-- Whether the table has a word, whatever the case of its ASCII letters. -/
def contains (table : Table) (word : Text) : Bool :=
  containsBetween table.entries (fold word) 0 table.entries.size

end Table
end Word
end SqlLexer
