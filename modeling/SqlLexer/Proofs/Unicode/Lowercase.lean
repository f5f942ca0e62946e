import SqlLexer.Proofs.Word.LetterCase
import SqlLexer.Unicode.Lowercase

/-!
# Lower case of texts in either case

Full lower-casing gives an ASCII letter and its capital the same image.  It looks at neighbours
for one letter alone, the capital sigma, and counts an ASCII letter as cased in either case.
-/

namespace SqlLexer
namespace Unicode

theorem lowercaseChar_toUpper (c : Char) : lowercaseChar c.toUpper = lowercaseChar c :=
  Word.apply_toUpper lowercaseChar (by decide +kernel) c

theorem cased_toUpper (c : Char) : cased.contains c.toUpper = cased.contains c :=
  Word.apply_toUpper cased.contains (by decide) c

theorem caseIgnorable_toUpper (c : Char) :
    caseIgnorable.contains c.toUpper = caseIgnorable.contains c :=
  Word.apply_toUpper caseIgnorable.contains (by decide) c

theorem meetsCased_fold (text : Text) : meetsCased (Word.fold text) = meetsCased text := by
  unfold meetsCased
  rw [Word.dropWhile_fold caseIgnorable_toUpper]
  cases text.dropWhile caseIgnorable.contains with
  | nil => rfl
  | cons c rest => exact cased_toUpper c

/-- The lower case of a text is the one of its upper case, with the final sigmas at the same
places. -/
theorem lowercaseAfter_fold (before text : Text) :
    lowercaseAfter (Word.fold before) (Word.fold text) = lowercaseAfter before text := by
  induction text generalizing before with
  | nil => rfl
  | cons c rest inductionHypothesis =>
      have isSigma := Word.toUpper_eq_iff 'Σ' (by decide) c
      rw [Word.fold_cons, lowercaseAfter, lowercaseAfter, ← Word.fold_cons, inductionHypothesis,
        lowercaseChar_toUpper, meetsCased_fold, meetsCased_fold]
      simp only [isSigma]

/-- The lower case of a text is that of the text in any other case of its ASCII letters. -/
theorem lowercase_fold (text : Text) : lowercase (Word.fold text) = lowercase text :=
  lowercaseAfter_fold [] text

end Unicode
end SqlLexer
