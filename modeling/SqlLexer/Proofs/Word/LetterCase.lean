import SqlLexer.CharClass
import SqlLexer.Lexeme.Number
import SqlLexer.Text.Bytes
import SqlLexer.Text.Location
import SqlLexer.Word.Keywords

/-!
# Characters and words in either case

Upper-casing an ASCII letter changes nothing that is asked about a character, other than which
of its two forms it is.  So the questions about words and texts that are made of such questions
have the same answers for a text and for its fold.
-/

namespace SqlLexer
namespace Word

/-- The letters that have a capital within ASCII. -/
def smallLetters : Text :=
  "abcdefghijklmnopqrstuvwxyz".toList

theorem smallLetters_eq : smallLetters = (List.range' 0x61 26).map Char.ofNat := by
  decide

/-- Only small letters have another upper case. -/
theorem toUpper_cases (c : Char) : c ∈ smallLetters ∨ c.toUpper = c := by
  unfold Char.toUpper
  split
  · rename_i small
    refine .inl ?_
    rw [UInt32.le_iff_toNat_le, UInt32.le_iff_toNat_le] at small
    rw [smallLetters_eq, List.mem_map]
    refine ⟨c.toNat, ?_, Char.ofNat_toNat c⟩
    rw [List.mem_range'_1]
    exact ⟨small.1, Nat.lt_succ_of_le small.2⟩
  · exact .inr rfl

/-- What is the same for each small letter and its capital is the same for every character and
its upper case. -/
theorem apply_toUpper
    {α : Type}
    [DecidableEq α]
    (function : Char → α)
    (letters : smallLetters.all fun c => function c.toUpper = function c)
    (c : Char) :
    function c.toUpper = function c := by
  rcases toUpper_cases c with small | same
  · exact of_decide_eq_true (List.all_eq_true.mp letters c small)
  · rw [same]

theorem toUpper_toUpper (c : Char) : c.toUpper.toUpper = c.toUpper :=
  apply_toUpper Char.toUpper (by decide) c

theorem isAlpha_toUpper (c : Char) : c.toUpper.isAlpha = c.isAlpha :=
  apply_toUpper Char.isAlpha (by decide) c

theorem toUpper_of_not_isAlpha
    {c : Char}
    (noLetter : c.isAlpha = false) :
    c.toUpper = c := by
  have letters : smallLetters.all Char.isAlpha := by decide
  rcases toUpper_cases c with small | same
  · have isLetter := List.all_eq_true.mp letters c small
    rw [noLetter] at isLetter
    contradiction
  · exact same

/-- Nothing but a mark without a capital turns into that mark. -/
theorem toUpper_eq_iff
    (mark : Char)
    (noLetter : mark.isAlpha = false)
    (c : Char) :
    c.toUpper = mark ↔ c = mark := by
  constructor
  · rintro rfl
    rw [isAlpha_toUpper] at noLetter
    exact (toUpper_of_not_isAlpha noLetter).symm
  · rintro rfl
    exact toUpper_of_not_isAlpha noLetter

theorem utf8Size_toUpper (c : Char) : c.toUpper.utf8Size = c.utf8Size :=
  apply_toUpper Char.utf8Size (by decide) c

theorem isWhitespace_toUpper (c : Char) : isWhitespace c.toUpper = isWhitespace c :=
  apply_toUpper isWhitespace (by decide) c

theorem isIdentifierStart_toUpper (c : Char) :
    isIdentifierStart c.toUpper = isIdentifierStart c :=
  apply_toUpper isIdentifierStart (by decide) c

theorem isIdentifierPart_toUpper (c : Char) : isIdentifierPart c.toUpper = isIdentifierPart c :=
  apply_toUpper isIdentifierPart (by decide) c

theorem isDigit_toUpper (c : Char) : isDigit c.toUpper = isDigit c :=
  apply_toUpper isDigit (by decide) c

theorem isOperatorChar_toUpper (c : Char) : isOperatorChar c.toUpper = isOperatorChar c :=
  apply_toUpper isOperatorChar (by decide) c

/-! ## Folded texts -/

@[simp] theorem fold_fold (word : Text) : fold (fold word) = fold word := by
  unfold fold
  rw [List.map_map]
  exact List.map_congr_left fun c _ => toUpper_toUpper c

theorem fold_take (count : Nat) (text : Text) : fold (text.take count) = (fold text).take count :=
  List.map_take

theorem fold_drop (count : Nat) (text : Text) : fold (text.drop count) = (fold text).drop count :=
  List.map_drop

/-- A run of characters is as long in the fold, if the capitals of its letters belong to it. -/
theorem takeWhile_fold
    {condition : Char → Bool}
    (blind : ∀ c : Char, condition c.toUpper = condition c)
    (text : Text) :
    (fold text).takeWhile condition = fold (text.takeWhile condition) := by
  have same : condition ∘ Char.toUpper = condition := funext blind
  rw [fold, List.takeWhile_map, same]
  rfl

theorem dropWhile_fold
    {condition : Char → Bool}
    (blind : ∀ c : Char, condition c.toUpper = condition c)
    (text : Text) :
    (fold text).dropWhile condition = fold (text.dropWhile condition) := by
  have same : condition ∘ Char.toUpper = condition := funext blind
  rw [fold, List.dropWhile_map, same]
  rfl

/-- A text without letters is its own fold. -/
theorem fold_of_noLetter
    {text : Text}
    (noLetter : text.all fun c => !c.isAlpha) :
    fold text = text := by
  have same : ∀ c ∈ text, c.toUpper = id c := by
    intro c member
    have outside := List.all_eq_true.mp noLetter c member
    exact toUpper_of_not_isAlpha (by simpa using outside)
  rw [fold, List.map_congr_left same, List.map_id]

/-- A text without letters is at the head of a fold where it is at the head of the text. -/
theorem isPrefixOf_fold
    {mark : Text}
    (noLetter : mark.all fun c => !c.isAlpha)
    (text : Text) :
    mark.isPrefixOf (fold text) = mark.isPrefixOf text := by
  induction mark generalizing text with
  | nil => cases text <;> rfl
  | cons d rest inductionHypothesis =>
      cases text with
      | nil => rfl
      | cons c text =>
          rw [List.all_cons, Bool.and_eq_true, Bool.not_eq_true'] at noLetter
          have same : (d == c.toUpper) = (d == c) := by
            rw [Bool.eq_iff_iff, beq_iff_eq, beq_iff_eq, eq_comm, toUpper_eq_iff d noLetter.1,
              eq_comm]
          rw [fold_cons, List.isPrefixOf, List.isPrefixOf, same, inductionHypothesis noLetter.2]

/-- Words that differ in case alone have the same length. -/
theorem length_eq_of_fold_eq
    {text other : Text}
    (same : fold text = fold other) :
    text.length = other.length := by
  rw [← length_fold text, same, length_fold]

/-- A keyword is one in either case. -/
theorem isKeyword_fold (word : Text) : isKeyword (fold word) = isKeyword word := by
  unfold isKeyword Table.contains
  rw [fold_fold]

end Word

/-- A text has as many bytes in upper case. -/
@[simp] theorem Text.byteLength_fold (text : Text) :
    byteLength (Word.fold text) = byteLength text := by
  induction text with
  | nil => rfl
  | cons c rest inductionHypothesis =>
      rw [Word.fold_cons, byteLength_cons, byteLength_cons, Word.utf8Size_toUpper,
        inductionHypothesis]

@[simp] theorem Location.walk_fold (location : Location) (text : Text) :
    location.walk (Word.fold text) = location.walk text := by
  induction text generalizing location with
  | nil => rfl
  | cons c rest inductionHypothesis =>
      have isFeed := Word.toUpper_eq_iff '\n' (by decide) c
      rw [Word.fold_cons, walk_cons, walk_cons, inductionHypothesis, step, step]
      simp only [isFeed]

end SqlLexer
