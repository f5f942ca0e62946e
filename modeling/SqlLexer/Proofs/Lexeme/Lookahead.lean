import Mathlib.Data.List.Infix
import SqlLexer.Proofs.Lexeme.LetterCase
import SqlLexer.Proofs.Lexeme.Numeral
import SqlLexer.Proofs.Lexeme.Sequence

/-!
# How far a lexeme looks ahead

More text behind a text may change its first lexeme only if the lexeme reaches to the end, or if
the text ends in what the lexeme looks at without taking it: the tail of an unfinished number, of
an unfinished operator or of an unfinished dollar delimiter.  Each of these tails has at most two
lexemes, so a lexeme with three others behind it stays as it is.
-/

namespace SqlLexer
namespace Text

/-- A beginning of two texts put together ends in the first or in the second of them. -/
theorem beginning_append
    {start first second : Text}
    (here : start <+: first ++ second) :
    start <+: first ∨ ∃ later, start = first ++ later ∧ later <+: second := by
  rcases List.prefix_or_prefix_of_prefix here (List.prefix_append first second) with
    inside | ⟨later, rfl⟩
  · exact .inl inside
  · exact .inr ⟨later, rfl, (List.prefix_append_right_inj first).mp here⟩

end Text

namespace Lexeme

/-! ## Numbers -/

theorem Run.beginning
    {condition : Char → Bool}
    {word start : Text}
    (run : Run condition word)
    (here : start <+: word) :
    start = [] ∨ Run condition start := by
  by_cases empty : start = []
  · exact .inl empty
  · exact .inr ⟨empty, fun c member => run.all c (here.subset member)⟩

/-- A beginning of a fraction is a fraction or a lone dot. -/
theorem Fraction.beginning
    {part start : Text}
    (isFraction : Fraction part)
    (here : start <+: part) :
    Fraction start ∨ start.length ≤ 1 := by
  cases isFraction with
  | absent =>
      rw [List.prefix_nil.mp here]
      exact .inl .absent
  | point run =>
      rcases List.prefix_cons_iff.mp here with rfl | ⟨digits, rfl, within⟩
      · exact .inl .absent
      · rcases run.beginning within with rfl | isRun
        · exact .inr (Nat.le_refl 1)
        · exact .inl (.point isRun)

/-- A beginning of an exponent is an exponent or has no digits. -/
theorem Exponent.beginning
    {power start : Text}
    (isExponent : Exponent power)
    (here : start <+: power) :
    Exponent start ∨ start.length ≤ 2 := by
  cases isExponent with
  | absent =>
      rw [List.prefix_nil.mp here]
      exact .inl .absent
  | @power mark signed digits isMark isSign run =>
      have short : signed.length ≤ 1 := by
        cases isSign <;> simp
      rcases List.prefix_cons_iff.mp here with rfl | ⟨signedStart, rfl, within⟩
      · exact .inl .absent
      · rcases Text.beginning_append within with inSign | ⟨digitStart, rfl, inDigits⟩
        · have fits := inSign.length_le
          refine .inr ?_
          rw [List.length_cons]
          omega
        · rcases run.beginning inDigits with rfl | isRun
          · refine .inr ?_
            rw [List.append_nil, List.length_cons]
            omega
          · exact .inl (.power isMark isSign isRun)

/-- What begins a decimal number is one itself, but for two characters at most that do not make up
an exponent or a fraction yet. -/
theorem Decimal.beginning
    {word start : Text}
    (decimal : Decimal word)
    (here : start <+: word)
    (nonempty : start ≠ []) :
    ∃ shorter, Decimal shorter ∧ shorter <+: start ∧ start.length ≤ shorter.length + 2 := by
  cases decimal with
  | @parts whole part power run isFraction isExponent =>
      have justWhole : Decimal whole := by
        simpa using Decimal.parts run .absent .absent
      rcases Text.beginning_append here with inWhole | ⟨afterWhole, rfl, within⟩
      · have isRun := (run.beginning inWhole).resolve_left nonempty
        refine ⟨start, ?_, List.prefix_rfl, Nat.le_add_right _ 2⟩
        simpa using Decimal.parts isRun .absent .absent
      · rcases Text.beginning_append within with inPart | ⟨afterPart, rfl, inPower⟩
        · rcases isFraction.beginning inPart with still | short
          · refine ⟨_, ?_, List.prefix_rfl, Nat.le_add_right _ 2⟩
            simpa using Decimal.parts run still .absent
          · refine ⟨whole, justWhole, List.prefix_append whole _, ?_⟩
            rw [List.length_append]
            omega
        · rcases isExponent.beginning inPower with still | short
          · exact ⟨_, .parts run isFraction still, List.prefix_rfl, Nat.le_add_right _ 2⟩
          · refine ⟨whole ++ part, ?_, ?_, ?_⟩
            · simpa using Decimal.parts run isFraction .absent
            · rw [← List.append_assoc]
              exact List.prefix_append _ _
            · rw [← List.append_assoc, List.length_append]
              omega

/-- A beginning of a numeral is a numeral with at most two characters behind it. -/
theorem Numeral.beginning
    {word start : Text}
    (numeral : Numeral word)
    (here : start <+: word)
    (nonempty : start ≠ []) :
    ∃ shorter, Numeral shorter ∧ shorter <+: start ∧ start.length ≤ shorter.length + 2 := by
  cases numeral with
  | @radix mark radix digits stands run =>
      have zero : Numeral ['0'] := by
        have isRun : Run isDigit ['0'] :=
          ⟨List.cons_ne_nil _ _, List.forall_mem_singleton.mpr rfl⟩
        exact .decimal (.parts isRun .absent .absent)
      obtain ⟨tail, rfl, within⟩ := (List.prefix_cons_iff.mp here).resolve_left nonempty
      rcases List.prefix_cons_iff.mp within with rfl | ⟨digitStart, rfl, inDigits⟩
      · exact ⟨['0'], zero, List.prefix_rfl, by simp⟩
      · rcases run.beginning inDigits with rfl | isRun
        · exact ⟨['0'], zero, by simp, by simp⟩
        · exact ⟨_, .radix stands isRun, List.prefix_rfl, Nat.le_add_right _ 2⟩
  | decimal decimal =>
      obtain ⟨shorter, isDecimal, initial, short⟩ := decimal.beginning here nonempty
      exact ⟨shorter, .decimal isDecimal, initial, short⟩

/-- A number with three characters behind it does not go on in what follows them. -/
theorem number_append
    {c : Char}
    {rest : Text}
    (digit : isDigit c)
    (far : (number (c :: rest)).text.length + 3 ≤ (c :: rest).length)
    (more : Text) :
    number (c :: (rest ++ more)) = number (c :: rest) := by
  have longest : IsLongest Numeral (c :: rest) (number (c :: rest)).text := number_isLongest digit
  have still : IsLongest Numeral (c :: (rest ++ more)) (number (c :: rest)).text := by
    refine ⟨longest.belongs, longest.initial.trans (List.prefix_append (c :: rest) more), ?_⟩
    intro other numeral here
    rcases List.prefix_or_prefix_of_prefix here (List.prefix_append (c :: rest) more) with
      inside | beyond
    · exact longest.longest other numeral inside
    · obtain ⟨shorter, isNumeral, initial, short⟩ :=
        numeral.beginning beyond (List.cons_ne_nil c rest)
      have fits := longest.longest shorter isNumeral initial
      omega
  have sameText := (number_isLongest digit).unique still
  exact congrArg (Lexeme.mk .numericLiteral) sameText

/-! ## Operators -/

/-- All operators of the table but one have at most three characters. -/
theorem operators_short :
    ∀ operator ∈ operators, operator.length ≤ 3 ∨ operator = "!~~*".toList := by
  decide

/-- The longest operator is followed by no character that would make it run into a comment. -/
theorem hasCommentOpener_longest (more : Text) :
    hasCommentOpener ("!~~*".toList ++ more.take 1) = false := by
  apply hasCommentOpener_append_take_of_getLast? (by decide)
  rintro c ⟨⟩
  decide

/-- Four characters decide which operator is at the head of a text. -/
theorem longestOperator?_append
    {text : Text}
    (long : 4 ≤ text.length)
    (more : Text) :
    longestOperator? (text ++ more) = longestOperator? text := by
  unfold longestOperator?
  apply List.find?_congr
  intro operator member
  have fits : operator.length ≤ text.length := by
    rcases operators_short operator member with short | rfl
    · omega
    · exact long
  rw [Bool.eq_iff_iff, admits, admits, Bool.and_eq_true, Bool.and_eq_true,
    List.isPrefixOf_iff_prefix, List.isPrefixOf_iff_prefix,
    List.isPrefix_append_of_length fits]
  refine and_congr_right fun here => ?_
  rcases Nat.lt_or_eq_of_le fits with inside | atEnd
  · rw [List.take_append_of_le_length inside]
  · -- An operator as long as the text is the text, and too long for any entry but one.
    obtain rfl := here.eq_of_length atEnd
    rcases operators_short operator member with short | rfl
    · omega
    · rw [List.take_length_add_append, hasCommentOpener_longest]
      decide

/-- Two characters decide whether a comment opens at the head of a text. -/
theorem startsComment_append
    {text : Text}
    (long : 2 ≤ text.length)
    (more : Text) :
    startsComment (text ++ more) = startsComment text := by
  match text, long with
  | c :: d :: rest, _ => exact startsComment_cons_congr rfl

/-! ## Dollars -/

/-- A beginning of a tag is a tag. -/
theorem Tag.beginning
    {tag start : Text}
    (isTag : Tag tag)
    (here : start <+: tag) :
    Tag start := by
  cases isTag with
  | empty =>
      rw [List.prefix_nil.mp here]
      exact .empty
  | word letter parts =>
      rcases List.prefix_cons_iff.mp here with rfl | ⟨rest, rfl, within⟩
      · exact .empty
      · exact .word letter fun d member => parts d (within.subset member)

/-- A tag is one word or nothing. -/
theorem Tag.length_lexemes_le
    {tag : Text}
    (isTag : Tag tag) :
    (lexemes tag).length ≤ 1 := by
  cases isTag with
  | empty => simp
  | @word c rest letter parts =>
      have isWord : First (c :: rest) (Lexeme.word (c :: rest)) := .word letter
      have allParts : ∀ d ∈ c :: rest, isIdentifierPart d := by
        refine List.forall_mem_cons.mpr ⟨by simp [isIdentifierPart, letter], fun d member => ?_⟩
        have isPart := parts d member
        rw [isTagPart, Bool.and_eq_true] at isPart
        exact isPart.2
      have whole : (Lexeme.word (c :: rest)).text ++ [] = c :: rest := by
        rw [List.append_nil]
        exact List.takeWhile_eq_self_iff.mpr allParts
      rw [isWord.lexemes_eq whole, lexemes_nil]
      exact Nat.le_refl 1

/-- A dollar that opens no delimiter opens none with more text behind it either, unless only a tag
follows it. -/
theorem dollarDelimiter?_append_of_none
    {rest : Text}
    (none : dollarDelimiter? ('$' :: rest) = none)
    (noTag : ¬Tag rest)
    (more : Text) :
    dollarDelimiter? ('$' :: (rest ++ more)) = Option.none := by
  rw [Option.eq_none_iff_forall_ne_some]
  intro delimiter found
  obtain ⟨isDelimiter, here⟩ := (dollarDelimiter?_eq_some_iff _ _).mp found
  rcases List.prefix_or_prefix_of_prefix here (List.prefix_append ('$' :: rest) more) with
    inside | beyond
  · rw [(dollarDelimiter?_eq_some_iff _ _).mpr ⟨isDelimiter, inside⟩] at none
    contradiction
  · cases isDelimiter with
    | @tagged tag opener isTag =>
        obtain ⟨rfl, within⟩ := List.cons_prefix_cons.mp beyond
        rcases List.prefix_concat_iff.mp within with rfl | inTag
        · have opens := (dollarDelimiter?_eq_some_iff _ _).mpr ⟨.tagged '$' isTag, List.prefix_rfl⟩
          rw [opens] at none
          contradiction
        · exact noTag (isTag.beginning inTag)

/-! ## The first lexeme -/

/-- A text has no more lexemes than characters. -/
theorem length_lexemes_le (text : Text) : (lexemes text).length ≤ text.length := by
  fun_induction lexemes text with
  | case1 => exact Nat.le_refl 0
  | case2 c rest lexeme inductionHypothesis =>
      have positive := List.length_pos_iff.mpr (next_text_ne_nil c rest)
      rw [List.length_drop] at inductionHypothesis
      rw [List.length_cons, List.length_cons] at *
      change 0 < lexeme.text.length at positive
      omega

theorem isPrefixOf_append
    {opener text : Text}
    (here : opener.isPrefixOf text)
    (more : Text) :
    opener.isPrefixOf (text ++ more) := by
  rw [List.isPrefixOf_iff_prefix] at here ⊢
  exact here.trans (List.prefix_append text more)

/-- A lexeme with three others behind it stays the first lexeme with more text behind them. -/
theorem First.append
    {piece : Lexeme}
    {behind : Text}
    (first : First (piece.text ++ behind) piece)
    (far : 3 ≤ (lexemes behind).length)
    (more : Text) :
    First (piece.text ++ behind ++ more) piece := by
  have long : 3 ≤ behind.length := far.trans (length_lexemes_le behind)
  have taken := List.length_pos_iff.mpr first.text_ne_nil
  by_cases isDollar : piece.kind = .dollarQuotedString
  · rw [List.append_assoc]
    refine first.replace_of_dollar isDollar ?_
    rintro rfl
    contradiction
  have size : piece.text.length + 3 ≤ (piece.text ++ behind).length := by
    rw [List.length_append]
    omega
  have stops : piece.text ≠ piece.text ++ behind := by
    intro whole
    rw [← whole] at size
    omega
  generalize split : piece.text ++ behind = text at first size stops ⊢
  cases first with
  | whitespace space =>
      rw [← (Text.takeWhile_stops isWhitespace).append_of_ne stops more]
      exact .whitespace space
  | @lineComment c rest opener =>
      have same : Lexeme.lineComment (c :: rest ++ more) = Lexeme.lineComment (c :: rest) :=
        congrArg (Lexeme.mk .lineComment) ((Text.takeWhile_stops _).append_of_ne stops more)
      rw [← same]
      exact .lineComment (isPrefixOf_append opener more)
  | @blockComment c rest opener =>
      have same : Lexeme.blockComment (c :: rest ++ more) = Lexeme.blockComment (c :: rest) :=
        congrArg (Lexeme.mk .blockComment) (blockComment_stops.append_of_ne stops more)
      rw [← same]
      exact .blockComment (isPrefixOf_append opener more)
  | number digit =>
      rw [← number_append digit size more]
      exact .number digit
  | @stringLiteral rest =>
      have same := (quoted_stops singleQuote).append_of_ne stops more
      rw [Lexeme.stringLiteral, ← same]
      exact .stringLiteral
  | @dollarQuotedString rest =>
      have nothing := dollarDelimiter?_of_kind_ne isDollar
      rw [dollarQuotedString_of_none nothing] at split ⊢
      obtain rfl : behind = rest := (List.cons.inj split).2
      have noTag : ¬Tag behind := by
        intro isTag
        have short := isTag.length_lexemes_le
        omega
      have still := dollarDelimiter?_append_of_none nothing noTag more
      rw [← dollarQuotedString_of_none still]
      exact .dollarQuotedString
  | @quotedIdentifier rest =>
      have same := (quoted_stops doubleQuote).append_of_ne stops more
      rw [Lexeme.quotedIdentifier, ← same]
      exact .quotedIdentifier
  | @word c rest letter =>
      have same : Lexeme.word (c :: rest ++ more) = Lexeme.word (c :: rest) := by
        rw [Lexeme.word, (Text.takeWhile_stops isIdentifierPart).append_of_ne stops more]
        rfl
      rw [← same]
      exact .word letter
  | punctuation mark => exact .punctuation mark
  | @operator c rest symbol code found =>
      have size : 4 ≤ (c :: rest).length := by omega
      have same := longestOperator?_append size more
      have sameOperator : Lexeme.operator (c :: rest ++ more) = Lexeme.operator (c :: rest) := by
        rw [Lexeme.operator, same]
        rfl
      rw [← startsComment_append (by omega) more] at code
      rw [← same] at found
      rw [← sameOperator]
      exact .operator symbol code found
  | @unknown c rest symbol code missing =>
      have size : 4 ≤ (c :: rest).length := by omega
      rw [← startsComment_append (by omega) more] at code
      rw [← longestOperator?_append size more] at missing
      exact .unknown symbol code missing

end Lexeme
end SqlLexer
