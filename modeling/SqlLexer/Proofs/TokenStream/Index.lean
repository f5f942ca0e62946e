import SqlLexer.TokenStream.Skip

/-!
# Tokens by their index

A stream goes on past its list of tokens with its end mark.  Every index then has a token, and a
search for a kind that includes end marks has a result from every index on.  Moves of a stream are
told by the index to which they lead.
-/

namespace SqlLexer
namespace TokenStream

/-- The token at an index of the list, or the end mark past it. -/
def tokenAt (stream : TokenStream) (index : Nat) : Token :=
  stream.tokens[index]?.getD stream.endMark

/-- The index of the first token of a wanted kind from an index on, or of the end of the list if it
has none. -/
def firstFrom
    (stream : TokenStream)
    (index : Nat)
    (wanted : Kind → Bool) : Nat :=
  index + (stream.tokens.toList.drop index).findIdx fun token => wanted token.kind

/-- The index of a significant token from the position on, with the first of them numbered
zero. -/
def significantIndex (stream : TokenStream) : Nat → Nat
  | 0 => stream.firstFrom stream.position Kind.isSignificant
  | number + 1 => stream.firstFrom (stream.significantIndex number + 1) Kind.isSignificant

/-- A significant token from the position on. -/
def significant (stream : TokenStream) (number : Nat) : Token :=
  stream.tokenAt (stream.significantIndex number)

/-- A stream at another index, be it within the list or not. -/
def moveTo (stream : TokenStream) (index : Nat) : TokenStream :=
  { stream with position := index }

variable {stream : TokenStream} {index place : Nat} {wanted : Kind → Bool}

theorem current_eq_tokenAt (stream : TokenStream) :
    stream.current = stream.tokenAt stream.position :=
  rfl

theorem tokenAt_of_size_le (past : stream.tokens.size ≤ index) :
    stream.tokenAt index = stream.endMark := by
  rw [tokenAt, Array.getElem?_eq_none past, Option.getD_none]

/-- A token other than an end mark stands in the list. -/
theorem lt_size_of_kind_ne (notEnd : (stream.tokenAt index).kind ≠ .endOfFile) :
    index < stream.tokens.size := by
  apply Nat.lt_of_not_le
  intro past
  rw [tokenAt_of_size_le past] at notEnd
  exact notEnd stream.endMark_kind

/-! ## Searching for a kind -/

theorem le_firstFrom : index ≤ stream.firstFrom index wanted :=
  Nat.le_add_right _ _

/-- The search ends at the end of the list, unless it starts behind it. -/
theorem firstFrom_le : stream.firstFrom index wanted ≤ max index stream.tokens.size := by
  have atMost : (stream.tokens.toList.drop index).findIdx (fun token => wanted token.kind) ≤
      (stream.tokens.toList.drop index).length :=
    List.findIdx_le_length
  rw [List.length_drop, Array.length_toList] at atMost
  unfold firstFrom
  omega

theorem firstFrom_le_size (inside : index ≤ stream.tokens.size) :
    stream.firstFrom index wanted ≤ stream.tokens.size :=
  Nat.le_trans firstFrom_le (Nat.max_le.mpr ⟨inside, Nat.le_refl _⟩)

/-- The search ends at a token of a wanted kind, which may be the end mark. -/
theorem wanted_firstFrom
    (wantsEnd : wanted .endOfFile)
    (stream : TokenStream)
    (index : Nat) :
    wanted (stream.tokenAt (stream.firstFrom index wanted)).kind := by
  rcases Nat.lt_or_ge ((stream.tokens.toList.drop index).findIdx fun token => wanted token.kind)
    (stream.tokens.toList.drop index).length with within | whole
  · have found := List.findIdx_getElem (w := within)
    rw [List.getElem_drop, Array.getElem_toList] at found
    have inside : stream.firstFrom index wanted < stream.tokens.size := by
      rw [List.length_drop, Array.length_toList] at within
      unfold firstFrom
      omega
    rw [tokenAt, Array.getElem?_eq_getElem inside]
    exact found
  · have past : stream.tokens.size ≤ stream.firstFrom index wanted := by
      rw [List.length_drop, Array.length_toList] at whole
      unfold firstFrom
      omega
    rw [tokenAt_of_size_le past, stream.endMark_kind]
    exact wantsEnd

/-- The search passes over no token of a wanted kind. -/
theorem not_wanted_of_lt_firstFrom
    (behind : index ≤ place)
    (before : place < stream.firstFrom index wanted) :
    wanted (stream.tokenAt place).kind = false := by
  have inside : place < stream.tokens.size := by
    have atMost : stream.firstFrom index wanted ≤ max index stream.tokens.size := firstFrom_le
    omega
  obtain ⟨steps, rfl⟩ := Nat.exists_eq_add_of_le behind
  have notFound := List.not_of_lt_findIdx (Nat.lt_of_add_lt_add_left before)
  rw [List.getElem_drop, Array.getElem_toList] at notFound
  rw [tokenAt, Array.getElem?_eq_getElem inside]
  exact notFound

/-- A token of a wanted kind with none before it is what the search finds. -/
theorem firstFrom_eq
    (wantsEnd : wanted .endOfFile)
    (behind : index ≤ place)
    (found : wanted (stream.tokenAt place).kind)
    (noneBefore : ∀ passed, index ≤ passed → passed < place →
      wanted (stream.tokenAt passed).kind = false) :
    stream.firstFrom index wanted = place := by
  rcases Nat.lt_trichotomy (stream.firstFrom index wanted) place with sooner | same | later
  · have missing := noneBefore _ le_firstFrom sooner
    rw [wanted_firstFrom wantsEnd] at missing
    contradiction
  · exact same
  · rw [not_wanted_of_lt_firstFrom behind later] at found
    contradiction

theorem firstFrom_of_wanted
    (wantsEnd : wanted .endOfFile)
    (found : wanted (stream.tokenAt index).kind) :
    stream.firstFrom index wanted = index := by
  refine firstFrom_eq wantsEnd (Nat.le_refl _) found fun passed behind before => ?_
  exact absurd (Nat.lt_of_le_of_lt behind before) (Nat.lt_irrefl _)

/-- A search goes on behind a token that is not wanted. -/
theorem firstFrom_succ
    (wantsEnd : wanted .endOfFile)
    (missing : wanted (stream.tokenAt index).kind = false) :
    stream.firstFrom (index + 1) wanted = stream.firstFrom index wanted := by
  refine (firstFrom_eq wantsEnd (Nat.le_of_succ_le le_firstFrom) ?_ ?_).symm
  · exact wanted_firstFrom wantsEnd stream (index + 1)
  · intro passed behind before
    rcases Nat.eq_or_lt_of_le behind with rfl | further
    · exact missing
    · exact not_wanted_of_lt_firstFrom further before

/-! ## Moves -/

theorem current_moveTo (stream : TokenStream) (index : Nat) :
    (stream.moveTo index).current = stream.tokenAt index :=
  rfl

theorem check_moveTo (stream : TokenStream) (index : Nat) (kind : Kind) :
    (stream.moveTo index).check kind = decide ((stream.tokenAt index).kind = kind) :=
  rfl

theorem moveTo_position (stream : TokenStream) : stream.moveTo stream.position = stream :=
  rfl

/-- A step leads to the next index, except from an end mark. -/
theorem advance_moveTo (notEnd : (stream.tokenAt index).kind ≠ .endOfFile) :
    (stream.moveTo index).advance = stream.moveTo (index + 1) := by
  have inside : (stream.moveTo index).position < (stream.moveTo index).tokens.size :=
    lt_size_of_kind_ne notEnd
  rw [advance, if_pos inside]
  rfl

/-- Passing over trivia leads to the next significant token. -/
theorem skipTrivia_eq (stream : TokenStream) :
    stream.skipTrivia = stream.moveTo (stream.firstFrom stream.position Kind.isSignificant) := by
  fun_induction skipTrivia stream with
  | case1 stream trivia inductionHypothesis =>
      have notWanted : (stream.tokenAt stream.position).kind.isSignificant = false := by
        rw [Kind.isSignificant, ← current_eq_tokenAt, trivia]
        rfl
      have notEnd : (stream.tokenAt stream.position).kind ≠ .endOfFile := by
        intro isEnd
        rw [isEnd] at notWanted
        contradiction
      have moved : stream.advance = stream.moveTo (stream.position + 1) := advance_moveTo notEnd
      rw [inductionHypothesis, moved, ← firstFrom_succ rfl notWanted]
      rfl
  | case2 stream significant =>
      have wanted : (stream.tokenAt stream.position).kind.isSignificant := by
        rw [Kind.isSignificant, ← current_eq_tokenAt, Bool.eq_false_iff.mpr significant]
        rfl
      rw [firstFrom_of_wanted rfl wanted, moveTo_position]

/-- Skipping trivia leads to the first significant index. -/
theorem skipTrivia_moveTo (stream : TokenStream) (index : Nat) :
    (stream.moveTo index).skipTrivia = stream.moveTo (stream.firstFrom index Kind.isSignificant) :=
  skipTrivia_eq (stream.moveTo index)

end TokenStream
end SqlLexer
