/-!
# Sets of characters given by code point ranges

A property of characters is kept as the ascending list of the closed code point ranges that
have it.  The ranges do not touch, so a search may stop at the first range beyond the
character.
-/

namespace SqlLexer
namespace Unicode

/-- A set of characters: closed code point ranges, ascending and apart from each other. -/
structure CodePointSet where
  ranges : List (Nat × Nat)

/-- Membership of a code point in ascending ranges. -/
def inRanges (code : Nat) : List (Nat × Nat) → Bool
  | [] => false
  | (first, last) :: rest =>
      if code < first then false
      else if code ≤ last then true
      else inRanges code rest

/-- Whether the set holds the character. -/
def CodePointSet.contains
    (set : CodePointSet)
    (c : Char) : Bool :=
  inRanges c.toNat set.ranges

@[simp] theorem inRanges_nil (code : Nat) : inRanges code [] = false :=
  rfl

theorem inRanges_cons (code first last : Nat) (rest : List (Nat × Nat)) :
    inRanges code ((first, last) :: rest) =
      if code < first then false
      else if code ≤ last then true
      else inRanges code rest :=
  rfl

end Unicode
end SqlLexer
