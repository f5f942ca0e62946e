import SqlLexer.Proofs.Lexeme.Delimiter
import SqlLexer.Proofs.Lexeme.Numeral
import SqlLexer.Proofs.Lexeme.Opener

/-!
# What follows a lexeme

A lexeme is decided by the text it is made of and by little of what follows.  Here a text is
cut somewhere behind its first lexeme and what comes after the cut is replaced by nothing, or by
a text that starts with a space.  The first lexeme stays as it is, as long as the cut does not
go through a comment opener.
-/

namespace SqlLexer
namespace Text

/-- A text without the character behind a cut does not reach across the cut. -/
theorem isPrefix_cut
    {mark before other : Text}
    (within : ∀ c ∈ other.head?, c ∉ mark)
    (here : mark <+: before ++ other) :
    mark <+: before := by
  induction mark generalizing before with
  | nil => exact List.nil_prefix
  | cons c rest inductionHypothesis =>
      cases before with
      | nil =>
          obtain ⟨more, rfl⟩ := here
          exact absurd List.mem_cons_self (within c rfl)
      | cons d before =>
          obtain ⟨rfl, tail⟩ := List.cons_prefix_cons.mp here
          refine List.cons_prefix_cons.mpr ⟨rfl, inductionHypothesis ?_ tail⟩
          exact fun e isNext member => within e isNext (List.mem_cons_of_mem _ member)

end Text

namespace Lexeme

/-- The text behind a cut, and another one in its place: one that is empty or starts with a
space, and that is empty where nothing is replaced. -/
structure Cut (after other : Text) : Prop where
  blank : ∀ c ∈ other.head?, c = ' '
  ends : after = [] → other = []

namespace Cut

variable {before after other : Text}

/-- A condition that no space satisfies stops behind the cut. -/
theorem stops
    (cut : Cut after other)
    {condition : Char → Bool}
    (outside : condition ' ' = false) :
    ∀ c ∈ other.head?, condition c = false := by
  intro c isNext
  rw [cut.blank c isNext]
  exact outside

/-- What is read in front of the cut stays, unless reading goes on with spaces. -/
theorem reads
    (cut : Cut after other)
    {read : Text → Text}
    {goesOn : Char → Bool}
    (stops : Text.Stops read goesOn)
    (outside : goesOn ' ' = false)
    (fits : (read (before ++ after)).length ≤ before.length) :
    read (before ++ other) = read (before ++ after) :=
  stops.cut (cut.stops outside) cut.ends fits

/-- Texts without a space lie in front of the cut, or not at all. -/
theorem isPrefix_before
    (cut : Cut after other)
    {mark : Text}
    (spaceless : ' ' ∉ mark)
    (here : mark <+: before ++ other) :
    mark <+: before := by
  refine Text.isPrefix_cut (fun c isNext => ?_) here
  rwa [cut.blank c isNext]

/-- Texts without a space lie ahead before and after the replacement, if they are short
enough. -/
theorem isPrefix_iff
    (cut : Cut after other)
    {mark : Text}
    (spaceless : ' ' ∉ mark)
    (fits : mark.length ≤ before.length) :
    mark <+: before ++ other ↔ mark <+: before ++ after := by
  constructor
  · intro here
    exact (cut.isPrefix_before spaceless here).trans (List.prefix_append before after)
  · intro here
    have inside := List.prefix_of_prefix_length_le here (List.prefix_append before after) fits
    exact inside.trans (List.prefix_append before other)

/-- The longest match in a language without spaces stays the longest. -/
theorem isLongest
    (cut : Cut after other)
    {language : Text → Prop}
    (spaceless : ∀ word, language word → ' ' ∉ word)
    {word : Text}
    (isLongest : IsLongest language (before ++ after) word)
    (fits : word.length ≤ before.length) :
    IsLongest language (before ++ other) word where
  belongs := isLongest.belongs
  initial := (cut.isPrefix_iff (spaceless word isLongest.belongs) fits).mpr isLongest.initial
  longest := by
    intro candidate belongs here
    have inside := cut.isPrefix_before (spaceless candidate belongs) here
    exact isLongest.longest candidate belongs (inside.trans (List.prefix_append before after))

theorem number
    {c : Char}
    (cut : Cut after other)
    (digit : isDigit c)
    (fits : (Lexeme.number (c :: before ++ after)).text.length ≤ (c :: before).length) :
    Lexeme.number (c :: before ++ other) = Lexeme.number (c :: before ++ after) := by
  have longest : IsLongest Numeral (c :: before ++ after)
      (Lexeme.number (c :: before ++ after)).text := number_isLongest digit
  have spaceless : ∀ word, Numeral word → ' ' ∉ word := fun _ numeral => numeral.space_not_mem
  have sameText := (number_isLongest digit).unique (cut.isLongest spaceless longest fits)
  change Lexeme.mk .numericLiteral _ = Lexeme.mk .numericLiteral _
  exact congrArg _ sameText

/-! ## Dollar-quoted strings -/

/-- A delimiter that ends in front of the cut is found whatever follows the cut. -/
theorem dollarDelimiter?
    (cut : Cut after other)
    (fits : ∀ delimiter, Lexeme.dollarDelimiter? ('$' :: before ++ after) = some delimiter →
      delimiter.length ≤ ('$' :: before).length) :
    Lexeme.dollarDelimiter? ('$' :: before ++ other) =
      Lexeme.dollarDelimiter? ('$' :: before ++ after) := by
  ext delimiter
  rw [dollarDelimiter?_eq_some_iff, dollarDelimiter?_eq_some_iff]
  constructor
  · rintro ⟨isDelimiter, here⟩
    have inside := cut.isPrefix_before (isDelimiter.space_not_mem here) here
    exact ⟨isDelimiter, inside.trans (List.prefix_append ('$' :: before) after)⟩
  · rintro ⟨isDelimiter, here⟩
    have short := fits delimiter ((dollarDelimiter?_eq_some_iff _ _).mpr ⟨isDelimiter, here⟩)
    exact ⟨isDelimiter, (cut.isPrefix_iff (isDelimiter.space_not_mem here) short).mpr here⟩

theorem dollarQuotedString
    (cut : Cut after other)
    (fits : (Lexeme.dollarQuotedString ('$' :: before ++ after)).text.length ≤
      ('$' :: before).length) :
    Lexeme.dollarQuotedString ('$' :: before ++ other) =
      Lexeme.dollarQuotedString ('$' :: before ++ after) := by
  have short : ∀ delimiter,
      Lexeme.dollarDelimiter? ('$' :: before ++ after) = some delimiter →
        delimiter.length ≤ ('$' :: before).length := by
    intro delimiter found
    simp only [Lexeme.dollarQuotedString, found, List.length_append] at fits
    omega
  have sameDelimiter := cut.dollarDelimiter? short
  unfold Lexeme.dollarQuotedString at fits ⊢
  rw [sameDelimiter]
  cases found : Lexeme.dollarDelimiter? ('$' :: before ++ after) with
  | none => rfl
  | some delimiter =>
      obtain ⟨isDelimiter, here⟩ := (dollarDelimiter?_eq_some_iff _ _).mp found
      obtain ⟨body, split⟩ := List.prefix_of_prefix_length_le here
        (List.prefix_append ('$' :: before) after) (short delimiter found)
      rw [found] at fits
      dsimp only at fits ⊢
      rw [← split, List.append_assoc, List.drop_left, List.length_append, List.length_append,
        Nat.add_le_add_iff_left] at fits
      rw [← split, List.append_assoc, List.append_assoc, List.drop_left, List.drop_left,
        cut.reads (Text.throughFirst_stops _) rfl fits]

/-! ## Operators -/

theorem startsComment
    {c : Char}
    (cut : Cut after other)
    (code : Lexeme.startsComment (c :: before ++ after) = false) :
    Lexeme.startsComment (c :: before ++ other) = false := by
  cases before with
  | nil =>
      rw [List.singleton_append, Bool.eq_false_iff, Ne, startsComment_cons]
      rintro ⟨d, isNext, opens⟩
      cases cut.blank d isNext
      rcases opens with ⟨_, isMinus⟩ | ⟨_, isStar⟩
      · exact absurd isMinus (by decide)
      · exact absurd isStar (by decide)
  | cons d before =>
      rw [← code]
      exact startsComment_cons_congr rfl

/-- The replacement opens no comment across the cut. -/
theorem apart
    (cut : Cut after other)
    (closed : hasCommentOpener before = false) :
    hasCommentOpener (before ++ other.take 1) = false := by
  apply hasCommentOpener_append_take closed
  rintro c _ d isNext opens
  cases cut.blank d isNext
  rcases opens with ⟨_, isMinus⟩ | ⟨_, isStar⟩
  · exact absurd isMinus (by decide)
  · exact absurd isStar (by decide)

/-- Up to one character behind the cut, the replacement changes nothing about openers. -/
theorem hasCommentOpener_take
    (cut : Cut after other)
    (apart : hasCommentOpener before = false → hasCommentOpener (before ++ after.take 1) = false)
    {count : Nat}
    (fits : count ≤ before.length) :
    hasCommentOpener ((before ++ other).take (count + 1)) =
      hasCommentOpener ((before ++ after).take (count + 1)) := by
  rcases Nat.lt_or_eq_of_le fits with inside | rfl
  · rw [List.take_append_of_le_length inside, List.take_append_of_le_length inside]
  · rw [List.take_length_add_append, List.take_length_add_append]
    cases closed : hasCommentOpener before with
    | false => rw [apart closed, cut.apart closed]
    | true =>
        rw [hasCommentOpener_append_of_left closed, hasCommentOpener_append_of_left closed]

/-- An operator in front of the cut is admitted whatever follows the cut. -/
theorem admitted_iff
    (cut : Cut after other)
    (apart : hasCommentOpener before = false → hasCommentOpener (before ++ after.take 1) = false)
    {operator : Text}
    (fits : operator.length ≤ before.length) :
    Admitted (before ++ other) operator ↔ Admitted (before ++ after) operator := by
  refine and_congr_right fun member => ?_
  have spaceless := operators_spaceless operator member
  rw [admits, admits, Bool.and_eq_true, Bool.and_eq_true, List.isPrefixOf_iff_prefix,
    List.isPrefixOf_iff_prefix, cut.isPrefix_iff spaceless fits,
    cut.hasCommentOpener_take apart fits]

/-- What is admitted after the replacement does not reach across the cut. -/
theorem length_le_of_admitted
    (cut : Cut after other)
    {operator : Text}
    (admitted : Admitted (before ++ other) operator) :
    operator.length ≤ before.length :=
  (cut.isPrefix_before (operators_spaceless operator admitted.1) admitted.initial).length_le

/-- The longest operator ends in front of the cut whatever follows the cut. -/
theorem longestOperator?
    (cut : Cut after other)
    (apart : hasCommentOpener before = false → hasCommentOpener (before ++ after.take 1) = false)
    (fits : ∀ operator, Lexeme.longestOperator? (before ++ after) = some operator →
      operator.length ≤ before.length) :
    Lexeme.longestOperator? (before ++ other) = Lexeme.longestOperator? (before ++ after) := by
  cases found : Lexeme.longestOperator? (before ++ after) with
  | none =>
      rw [longestOperator?_eq_none_iff] at found ⊢
      intro operator admitted
      have short := cut.length_le_of_admitted admitted
      exact found operator ((cut.admitted_iff apart short).mp admitted)
  | some operator =>
      have isLongest := (longestOperator?_eq_some_iff _ _).mp found
      have admitted := (cut.admitted_iff apart (fits operator found)).mpr isLongest.belongs
      refine (longestOperator?_eq_some_iff _ _).mpr ⟨admitted, admitted.initial, ?_⟩
      intro candidate isCandidate _
      have short := cut.length_le_of_admitted isCandidate
      have original := (cut.admitted_iff apart short).mp isCandidate
      exact isLongest.longest candidate original original.initial

/-- Where the operator in front fits in front of the cut, the same entry of the table is found, or
none again. -/
theorem longestOperator?_of_operator
    {c : Char}
    (cut : Cut after other)
    (apart : hasCommentOpener (c :: before) = false →
      hasCommentOpener (c :: before ++ after.take 1) = false)
    (fits : (Lexeme.operator (c :: before ++ after)).text.length ≤ (c :: before).length) :
    Lexeme.longestOperator? (c :: before ++ other) =
      Lexeme.longestOperator? (c :: before ++ after) := by
  refine cut.longestOperator? apart fun operator found => ?_
  simp only [Lexeme.operator, found, Option.getD_some] at fits
  exact fits

theorem opener_isPrefixOf
    (cut : Cut after other)
    (opener : Text)
    (spaceless : ' ' ∉ opener)
    (fits : opener.length ≤ before.length)
    (here : opener.isPrefixOf (before ++ after)) :
    opener.isPrefixOf (before ++ other) := by
  rw [List.isPrefixOf_iff_prefix] at here ⊢
  exact (cut.isPrefix_iff spaceless fits).mpr here

end Cut

theorem two_le_length_lineComment
    {c : Char}
    {rest : Text}
    (opener : lineOpener.isPrefixOf (c :: rest)) :
    2 ≤ (Lexeme.lineComment (c :: rest)).text.length := by
  obtain ⟨rfl, second⟩ := (lineOpener_isPrefixOf_iff c rest).mp opener
  obtain ⟨rest, rfl⟩ := List.head?_eq_some_iff.mp second
  simp [Lexeme.lineComment]

theorem two_le_length_blockComment
    {c : Char}
    {rest : Text}
    (opener : blockOpener.isPrefixOf (c :: rest)) :
    2 ≤ (Lexeme.blockComment (c :: rest)).text.length := by
  obtain ⟨rfl, second⟩ := (blockOpener_isPrefixOf_iff c rest).mp opener
  obtain ⟨rest, rfl⟩ := List.head?_eq_some_iff.mp second
  simp [Lexeme.blockComment]

/-- The first lexeme of a text stays the first when the text is cut somewhere behind it and what
follows the cut is replaced, unless a comment opener lies across the cut.  Trivia reach as far as
they can, so nothing may take the place of what follows them. -/
theorem First.cut
    {c : Char}
    {before after other : Text}
    {lexeme : Lexeme}
    (first : First (c :: (before ++ after)) lexeme)
    (fits : lexeme.text.length ≤ (c :: before).length)
    (cut : Cut after other)
    (apart : hasCommentOpener (c :: before) = false →
      hasCommentOpener (c :: before ++ after.take 1) = false)
    (trivia : lexeme.kind.isTrivia → other = []) :
    First (c :: (before ++ other)) lexeme := by
  cases first with
  | whitespace space =>
      have nothing : other = [] := trivia rfl
      have same : (c :: before ++ other).takeWhile isWhitespace =
          (c :: before ++ after).takeWhile isWhitespace :=
        (Text.takeWhile_stops isWhitespace).cut (by simp [nothing]) cut.ends fits
      rw [← List.cons_append, ← List.cons_append, ← same]
      exact .whitespace space
  | lineComment opener =>
      have nothing : other = [] := trivia rfl
      have short := (two_le_length_lineComment opener).trans fits
      have same : Lexeme.lineComment (c :: before ++ other) =
          Lexeme.lineComment (c :: before ++ after) :=
        congrArg (Lexeme.mk .lineComment)
          ((Text.takeWhile_stops _).cut (by simp [nothing]) cut.ends fits)
      rw [← List.cons_append, ← List.cons_append, ← same]
      exact .lineComment (cut.opener_isPrefixOf lineOpener (by decide) short opener)
  | blockComment opener =>
      have short := (two_le_length_blockComment opener).trans fits
      have same : Lexeme.blockComment (c :: before ++ other) =
          Lexeme.blockComment (c :: before ++ after) :=
        congrArg (Lexeme.mk .blockComment) (cut.reads blockComment_stops rfl fits)
      rw [← List.cons_append, ← List.cons_append, ← same]
      exact .blockComment (cut.opener_isPrefixOf blockOpener (by decide) short opener)
  | number digit =>
      rw [← List.cons_append, ← List.cons_append, ← cut.number digit fits]
      exact .number digit
  | stringLiteral =>
      have same : quoted singleQuote (singleQuote :: before ++ other) =
          quoted singleQuote (singleQuote :: before ++ after) :=
        cut.reads (quoted_stops singleQuote) rfl fits
      rw [← List.cons_append, ← List.cons_append, Lexeme.stringLiteral, ← same]
      exact .stringLiteral
  | dollarQuotedString =>
      rw [← List.cons_append, ← List.cons_append, ← cut.dollarQuotedString fits]
      exact .dollarQuotedString
  | quotedIdentifier =>
      have same : quoted doubleQuote (doubleQuote :: before ++ other) =
          quoted doubleQuote (doubleQuote :: before ++ after) :=
        cut.reads (quoted_stops doubleQuote) rfl fits
      rw [← List.cons_append, ← List.cons_append, Lexeme.quotedIdentifier, ← same]
      exact .quotedIdentifier
  | word letter =>
      have outside : isIdentifierPart ' ' = false := by decide
      have same : (c :: before ++ other).takeWhile isIdentifierPart =
          (c :: before ++ after).takeWhile isIdentifierPart :=
        cut.reads (Text.takeWhile_stops isIdentifierPart) outside fits
      rw [← List.cons_append, ← List.cons_append, Lexeme.word, ← same]
      exact .word letter
  | punctuation mark => exact .punctuation mark
  | operator symbol code found =>
      have same := cut.longestOperator?_of_operator apart fits
      rw [← List.cons_append, ← List.cons_append, Lexeme.operator, ← same]
      have stillFound :
          (isOperatorChar c || (Lexeme.longestOperator? (c :: before ++ other)).isSome) = true := by
        rw [same]
        exact found
      exact .operator symbol (cut.startsComment code) stillFound
  | unknown symbol code missing =>
      obtain ⟨notOperatorChar, nothing⟩ := Bool.or_eq_false_iff.mp missing
      rw [Option.isSome_eq_false_iff, Option.isNone_iff_eq_none] at nothing
      have same := cut.longestOperator? apart fun operator found => by
        rw [List.cons_append, nothing] at found
        contradiction
      have stillMissing : (isOperatorChar c ||
          (Lexeme.longestOperator? (c :: before ++ other)).isSome) = false := by
        rw [same, List.cons_append, notOperatorChar, nothing]
        rfl
      exact .unknown symbol (cut.startsComment code) stillMissing

end Lexeme
end SqlLexer
