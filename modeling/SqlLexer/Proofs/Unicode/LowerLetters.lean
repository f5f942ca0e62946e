import SqlLexer.CharClass
import SqlLexer.Unicode.Lowercase

/-!
# Texts in lower case

A character of a lower case has no other lower case, so a text that is lower-cased twice is
lower-cased once.  What a lower case puts in the place of a letter are letters, with one
exception: the dotted capital I leaves its dot behind, which is a mark that no word may contain.
-/

namespace SqlLexer
namespace Unicode

/-! ## The table of lower cases

Runs of the table are compared with each other and with the ranges of letters as wholes, by their
ends alone, and without a look at the code points between these. -/

/-- Whether one of some ascending ranges holds all code points from `first` to `last`. -/
def inOneRange (first last : Nat) : List (Nat × Nat) → Bool
  | [] => false
  | (low, high) :: rest => low.ble first && (last.ble high || inOneRange first last rest)

theorem inRanges_of_inOneRange
    {first last code : Nat}
    {ranges : List (Nat × Nat)}
    (held : inOneRange first last ranges)
    (above : first ≤ code)
    (below : code ≤ last) :
    inRanges code ranges := by
  induction ranges with
  | nil => exact held
  | cons range rest inductionHypothesis =>
      simp only [inOneRange, Bool.and_eq_true, Bool.or_eq_true, Nat.ble_eq] at held
      obtain ⟨low, held⟩ := held
      rw [inRanges_cons, if_neg (by omega)]
      split
      · rfl
      · exact inductionHypothesis (held.resolve_left (by omega))

namespace LowercaseRun

/-- The image of the last code point of the run. -/
def lastImage (run : LowercaseRun) : Nat :=
  run.apply run.last

/-- Whether all images of the run are letters. -/
def givesLetters (run : LowercaseRun) : Bool :=
  inOneRange run.image run.lastImage alphabetic.ranges

/-- Whether all images of the run are characters, and none of them is the dotted capital I. -/
def givesChars (run : LowercaseRun) : Bool :=
  (run.lastImage.blt 0x0130 || Nat.blt 0x0130 run.image) &&
    (run.lastImage.blt 0xD800 || (Nat.blt 0xDFFF run.image && run.lastImage.blt 0x110000))

/-- Whether another run covers no image of this one: all images lie before or behind it, or both
take every second code point and the other one takes those between the images. -/
def avoids (run other : LowercaseRun) : Bool :=
  run.lastImage.blt other.first || other.last.blt run.image ||
    ((run.step.beq 2 || run.first.beq run.last) && other.step.beq 2 &&
      ((run.image + other.first) % 2).beq 1)

theorem covers_iff (run : LowercaseRun) (code : Nat) :
    run.covers code ↔
      run.first ≤ code ∧ code ≤ run.last ∧ (code - run.first) % run.step = 0 := by
  simp [covers, and_assoc]

theorem image_le_apply (run : LowercaseRun) (code : Nat) : run.image ≤ run.apply code :=
  Nat.le_add_right _ _

theorem apply_le_lastImage
    {run : LowercaseRun}
    {code : Nat}
    (covered : run.covers code) :
    run.apply code ≤ run.lastImage := by
  obtain ⟨_, below, _⟩ := (run.covers_iff code).mp covered
  exact Nat.add_le_add_left (Nat.sub_le_sub_right below _) _

/-- No lower case of a run is covered by a run that the run avoids. -/
theorem not_covers_apply
    {run other : LowercaseRun}
    {code : Nat}
    (apart : run.avoids other)
    (covered : run.covers code) :
    other.covers (run.apply code) = false := by
  have lower := run.image_le_apply code
  have upper := apply_le_lastImage covered
  rw [covers_iff] at covered
  rw [Bool.eq_false_iff, Ne, covers_iff]
  rintro ⟨above, below, alternate⟩
  simp only [avoids, Bool.or_eq_true, Bool.and_eq_true, Nat.blt_eq, Nat.beq_eq] at apart
  rcases apart with (before | behind) | ⟨⟨everySecond, otherEverySecond⟩, odd⟩
  · omega
  · omega
  · have even : (code - run.first) % 2 = 0 := by
      rcases everySecond with isTwo | isOne
      · rw [← isTwo]
        exact covered.2.2
      · have isFirst : code = run.first := by omega
        rw [isFirst, Nat.sub_self]
    rw [otherEverySecond, apply] at alternate
    rw [apply] at above
    omega

end LowercaseRun

theorem lowercaseRuns_givesLetters :
    lowercaseRuns.all LowercaseRun.givesLetters := by
  decide +kernel

theorem lowercaseRuns_givesChars : lowercaseRuns.all LowercaseRun.givesChars := by
  decide +kernel

theorem lowercaseRuns_avoids :
    lowercaseRuns.all fun run => lowercaseRuns.all run.avoids := by
  decide +kernel

/-! ## Characters -/

/-- The dot above a letter, which the lower case of the dotted capital I keeps. -/
def dotAbove : Char :=
  '\u0307'

/-- The lower case of a character is a pair for the dotted capital I, an image in the table, or
the character itself. -/
theorem lowercaseChar_cases (c : Char) :
    (c = '\u0130' ∧ lowercaseChar c = ['i', dotAbove]) ∨
      (∃ run ∈ lowercaseRuns, run.covers c.toNat ∧
        lowercaseChar c = [Char.ofNat (run.apply c.toNat)]) ∨
      lowercaseChar c = [c] := by
  unfold lowercaseChar
  split
  · exact .inl ⟨‹_›, rfl⟩
  · refine .inr ?_
    split
    · rename_i run found
      have covered := List.find?_some found
      exact .inl ⟨run, List.mem_of_find?_eq_some found, covered, rfl⟩
    · exact .inr rfl

theorem isValidChar_of_givesChars
    {run : LowercaseRun}
    {code : Nat}
    (given : run.givesChars)
    (covered : run.covers code) :
    (run.apply code).isValidChar ∧ run.apply code ≠ 0x0130 := by
  have lower := run.image_le_apply code
  have upper := LowercaseRun.apply_le_lastImage covered
  simp only [LowercaseRun.givesChars, Bool.and_eq_true, Bool.or_eq_true, Nat.blt_eq] at given
  refine ⟨?_, by omega⟩
  change _ < 0xD800 ∨ 0xDFFF < _ ∧ _ < 0x110000
  omega

/-- An image in the table is a letter without another lower case. -/
theorem apply_of_covers
    {run : LowercaseRun}
    {code : Nat}
    (listed : run ∈ lowercaseRuns)
    (covered : run.covers code) :
    alphabetic.contains (Char.ofNat (run.apply code)) ∧
      lowercaseChar (Char.ofNat (run.apply code)) = [Char.ofNat (run.apply code)] := by
  obtain ⟨valid, notDotted⟩ :=
    isValidChar_of_givesChars (List.all_eq_true.mp lowercaseRuns_givesChars run listed) covered
  have isChar : Char.ofNat (run.apply code) = Char.ofNatAux (run.apply code) valid := dif_pos valid
  have toNat : (Char.ofNat (run.apply code)).toNat = run.apply code := by
    rw [isChar]
    rfl
  constructor
  · have letters := List.all_eq_true.mp lowercaseRuns_givesLetters run listed
    rw [CodePointSet.contains, toNat]
    exact inRanges_of_inOneRange letters (run.image_le_apply code)
      (LowercaseRun.apply_le_lastImage covered)
  · have uncovered : lowercaseRuns.find? (·.covers (run.apply code)) = none := by
      rw [List.find?_eq_none]
      intro other otherListed
      have apart := List.all_eq_true.mp (List.all_eq_true.mp lowercaseRuns_avoids run listed)
        other otherListed
      rw [LowercaseRun.not_covers_apply apart covered]
      exact Bool.false_ne_true
    have other : Char.ofNat (run.apply code) ≠ '\u0130' := by
      intro same
      rw [same] at toNat
      exact notDotted toNat.symm
    rw [lowercaseChar, if_neg other, toNat, uncovered]

/-- A character of a lower case is its own lower case. -/
theorem lowercaseChar_of_mem
    {c d : Char}
    (member : d ∈ lowercaseChar c) :
    lowercaseChar d = [d] := by
  rcases lowercaseChar_cases c with ⟨_, pair⟩ | ⟨run, listed, covered, image⟩ | same
  · rw [pair] at member
    simp only [List.mem_cons, List.not_mem_nil, or_false] at member
    rcases member with rfl | rfl <;> decide
  · rw [image, List.mem_singleton] at member
    rw [member]
    exact (apply_of_covers listed covered).2
  · rw [same, List.mem_singleton] at member
    rw [member, same]

/-- A character of a lower case is the character before lower-casing, a letter, or the dot of a
dotted capital I. -/
theorem mem_lowercaseChar_cases
    {c d : Char}
    (member : d ∈ lowercaseChar c) :
    d = c ∨ alphabetic.contains d ∨ c = '\u0130' ∧ d = dotAbove := by
  rcases lowercaseChar_cases c with ⟨dotted, pair⟩ | ⟨run, listed, covered, image⟩ | same
  · rw [pair] at member
    simp only [List.mem_cons, List.not_mem_nil, or_false] at member
    rcases member with rfl | rfl
    · exact .inr (.inl (by decide))
    · exact .inr (.inr ⟨dotted, rfl⟩)
  · rw [image, List.mem_singleton] at member
    rw [member]
    exact .inr (.inl (apply_of_covers listed covered).1)
  · rw [same, List.mem_singleton] at member
    exact .inl member

/-! ## Texts -/

/-- In a text, a capital sigma may have another lower case than alone; no other character has. -/
theorem lowercaseAfter_cons_cases (before : Text) (c : Char) (rest : Text) :
    lowercaseAfter before (c :: rest) = lowercaseChar c ++ lowercaseAfter (c :: before) rest ∨
      c = 'Σ' ∧ lowercaseAfter before (c :: rest) = 'ς' :: lowercaseAfter (c :: before) rest := by
  have sigma : lowercaseChar 'Σ' = ['σ'] := by decide
  rw [lowercaseAfter]
  split
  · rename_i isSigma
    split
    · exact .inr ⟨isSigma, rfl⟩
    · rw [isSigma, sigma]
      exact .inl rfl
  · exact .inl rfl

/-- What holds of the lower cases of all characters of a text, and of a final sigma, holds of all
characters of its lower case. -/
theorem forall_mem_lowercase
    {condition : Char → Prop}
    {text : Text}
    (final : condition 'ς')
    (chars : ∀ c ∈ text, ∀ d ∈ lowercaseChar c, condition d) :
    ∀ d ∈ lowercase text, condition d := by
  rw [lowercase]
  generalize ([] : Text) = before
  induction text generalizing before with
  | nil => exact List.forall_mem_nil _
  | cons c rest inductionHypothesis =>
      rw [List.forall_mem_cons] at chars
      have others := inductionHypothesis chars.2 (c :: before)
      rcases lowercaseAfter_cons_cases before c rest with alone | ⟨_, isFinal⟩
      · rw [alone, List.forall_mem_append]
        exact ⟨chars.1, others⟩
      · rw [isFinal, List.forall_mem_cons]
        exact ⟨final, others⟩

/-- A text of characters that are their own lower cases is its own lower case. -/
theorem lowercase_of_isLower
    {text : Text}
    (isLower : ∀ c ∈ text, lowercaseChar c = [c]) :
    lowercase text = text := by
  have notSigma : lowercaseChar 'Σ' ≠ ['Σ'] := by decide
  rw [lowercase]
  generalize ([] : Text) = before
  induction text generalizing before with
  | nil => rfl
  | cons c rest inductionHypothesis =>
      rw [List.forall_mem_cons] at isLower
      rcases lowercaseAfter_cons_cases before c rest with alone | ⟨rfl, _⟩
      · rw [alone, isLower.1, inductionHypothesis isLower.2]
        rfl
      · exact absurd isLower.1 notSigma

/-- All characters of a lower case are their own lower cases. -/
theorem isLower_of_mem_lowercase (text : Text) :
    ∀ d ∈ lowercase text, lowercaseChar d = [d] :=
  forall_mem_lowercase (by decide) fun _ _ _ member => lowercaseChar_of_mem member

/-- The dotted capital I leaves its dot in the lower case of a text. -/
theorem dotAbove_mem_lowercase
    {text : Text}
    (dotted : '\u0130' ∈ text) :
    dotAbove ∈ lowercase text := by
  rw [lowercase]
  generalize ([] : Text) = before
  induction text generalizing before with
  | nil => exact absurd dotted List.not_mem_nil
  | cons c rest inductionHypothesis =>
      rcases lowercaseAfter_cons_cases before c rest with alone | ⟨rfl, isFinal⟩
      · rw [alone, List.mem_append]
        rcases List.mem_cons.mp dotted with rfl | behind
        · exact .inl (List.mem_cons_of_mem _ List.mem_cons_self)
        · exact .inr (inductionHypothesis behind _)
      · have behind := (List.mem_cons.mp dotted).resolve_left (by decide)
        rw [isFinal]
        exact List.mem_cons_of_mem _ (inductionHypothesis behind _)

end Unicode

/-! ## Words -/

open Unicode

theorem isIdentifierPart_dotAbove : isIdentifierPart dotAbove = false := by
  decide

/-- The lower case of a part of a word is made of such parts, but for the dot of the dotted capital
I. -/
theorem isIdentifierPart_cases_of_mem_lowercaseChar
    {c d : Char}
    (part : isIdentifierPart c)
    (member : d ∈ lowercaseChar c) :
    isIdentifierPart d ∨ c = '\u0130' ∧ d = dotAbove := by
  rcases mem_lowercaseChar_cases member with rfl | letter | dotted
  · exact .inl part
  · exact .inl (by simp [isIdentifierPart, isIdentifierStart, letter])
  · exact .inr dotted

/-- A dot is the only thing that may end a word early in its lower case. -/
theorem eq_dotAbove_of_mem_lowercase
    {text : Text}
    {d : Char}
    (parts : ∀ c ∈ text, isIdentifierPart c)
    (member : d ∈ lowercase text)
    (outside : isIdentifierPart d = false) :
    d = dotAbove := by
  have fits : ∀ d ∈ lowercase text, isIdentifierPart d ∨ d = dotAbove := by
    apply forall_mem_lowercase
    · exact .inl (by decide)
    · intro c member d lower
      exact (isIdentifierPart_cases_of_mem_lowercaseChar (parts c member) lower).imp_right And.right
  exact (fits d member).resolve_left (Bool.eq_false_iff.mp outside)

/-- The lower case of a word is made of characters of words, unless the word has a dotted
capital I. -/
theorem forall_isIdentifierPart_lowercase_iff
    {text : Text}
    (parts : ∀ c ∈ text, isIdentifierPart c) :
    (∀ d ∈ lowercase text, isIdentifierPart d) ↔ '\u0130' ∉ text := by
  constructor
  · intro lowerParts dotted
    have part := lowerParts dotAbove (dotAbove_mem_lowercase dotted)
    rw [isIdentifierPart_dotAbove] at part
    contradiction
  · intro noDotted
    apply forall_mem_lowercase
    · decide
    · intro c member d lower
      rcases isIdentifierPart_cases_of_mem_lowercaseChar (parts c member) lower with
        part | ⟨rfl, _⟩
      · exact part
      · exact absurd member noDotted

/-- In lower case, a word begins like a word. -/
theorem exists_lowercase_eq_cons
    {c : Char}
    (start : isIdentifierStart c)
    (rest : Text) :
    ∃ d tail, lowercase (c :: rest) = d :: tail ∧ isIdentifierStart d := by
  rcases lowercaseAfter_cons_cases [] c rest with alone | ⟨_, isFinal⟩
  · rcases lowercaseChar_cases c with ⟨_, pair⟩ | ⟨run, listed, covered, image⟩ | same
    · rw [pair] at alone
      exact ⟨_, _, alone, by decide⟩
    · rw [image] at alone
      refine ⟨_, _, alone, ?_⟩
      simp [isIdentifierStart, (apply_of_covers listed covered).1]
    · rw [same] at alone
      exact ⟨_, _, alone, start⟩
  · exact ⟨_, _, isFinal, by decide⟩

end SqlLexer
