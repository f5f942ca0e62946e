import SqlLexer.Proofs.Lexeme.Closing
import SqlLexer.Proofs.Lexeme.First

/-!
# Lexemes are initial parts of their text

Every form of lexeme takes characters from the head of the text and changes none of them, so the
lexemes of a text spell out the text.
-/

namespace SqlLexer
namespace Text

/-- Two parts that follow one another at the head of a text. -/
theorem append_initial
    {first second text : Text}
    (head : first <+: text)
    (next : second <+: text.drop first.length) :
    first ++ second <+: text := by
  obtain ⟨rest, rfl⟩ := head
  rw [List.drop_left] at next
  exact (List.prefix_append_right_inj first).mpr next

end Text

namespace Lexeme

/-- What a literal with a radix mark consists of. -/
theorem radixLiteral?_eq_some
    {text literal : Text}
    (found : radixLiteral? text = some literal) :
    ∃ mark rest radix, text = '0' :: mark :: rest ∧
      Radix.ofMark? mark = some radix ∧
      rest.takeWhile radix.isDigit ≠ [] ∧
      literal = '0' :: mark :: rest.takeWhile radix.isDigit := by
  unfold radixLiteral? at found
  split at found
  · rename_i zero mark rest
    split at found
    · rename_i isZero
      split at found
      · rename_i radix stands
        split at found
        · cases found
        · rename_i nonempty
          cases found
          subst isZero
          exact ⟨mark, rest, radix, rfl, stands, nonempty, rfl⟩
      · cases found
    · cases found
  · cases found

theorem radixLiteral?_initial
    {text literal : Text}
    (found : radixLiteral? text = some literal) :
    literal <+: text := by
  obtain ⟨mark, rest, radix, rfl, _, _, rfl⟩ := radixLiteral?_eq_some found
  simpa using List.takeWhile_prefix radix.isDigit

theorem fraction_initial (text : Text) : fraction text <+: text := by
  unfold fraction
  split
  · rename_i point rest
    split
    · split
      · exact List.nil_prefix
      · simpa using List.takeWhile_prefix isDigit
    · exact List.nil_prefix
  · exact List.nil_prefix

theorem sign_initial (text : Text) : sign text <+: text := by
  unfold sign
  split
  · split
    · simp
    · exact List.nil_prefix
  · exact List.nil_prefix

theorem exponent_initial (text : Text) : exponent text <+: text := by
  unfold exponent
  split
  · rename_i mark rest
    split
    · split
      · exact List.nil_prefix
      · have digits := List.takeWhile_prefix (l := rest.drop (sign rest).length) isDigit
        simpa using Text.append_initial (sign_initial rest) digits
    · exact List.nil_prefix
  · exact List.nil_prefix

theorem decimalLiteral_initial (text : Text) : decimalLiteral text <+: text := by
  unfold decimalLiteral
  dsimp only
  rw [List.append_assoc]
  exact Text.append_initial (List.takeWhile_prefix isDigit) <|
    Text.append_initial (fraction_initial _) (exponent_initial _)

/-- A number is an initial part of the text it is read from, with a radix mark or without one. -/
theorem number_text_initial (text : Text) : (number text).text <+: text := by
  unfold number
  cases found : radixLiteral? text with
  | none => exact decimalLiteral_initial text
  | some literal => exact radixLiteral?_initial found

theorem dollarTag_initial (text : Text) : dollarTag text <+: text := by
  unfold dollarTag
  split
  · exact List.nil_prefix
  · split
    · simpa using List.takeWhile_prefix isTagPart
    · exact List.nil_prefix

theorem dollarDelimiter?_initial
    {text delimiter : Text}
    (found : dollarDelimiter? text = some delimiter) :
    delimiter <+: text := by
  unfold dollarDelimiter? at found
  split at found
  · cases found
  · rename_i opener rest
    dsimp only at found
    split at found
    · rename_i closer ahead remains
      split at found
      · cases found
        refine List.cons_prefix_cons.mpr ⟨rfl, ?_⟩
        apply Text.append_initial (dollarTag_initial rest)
        rw [remains]
        simp
      · cases found
    · cases found

theorem dollarQuotedString_text_initial (text : Text) :
    (dollarQuotedString text).text <+: text := by
  unfold dollarQuotedString
  split
  · rename_i delimiter found
    have body := (Text.throughFirst_stops delimiter).initial (text.drop delimiter.length)
    exact Text.append_initial (dollarDelimiter?_initial found) body
  · exact List.take_prefix 1 text

/-- An operator of the table is found at the head of the text. -/
theorem longestOperator?_initial
    {text operator : Text}
    (found : longestOperator? text = some operator) :
    operator <+: text := by
  have admitted := List.find?_some found
  rw [admits, Bool.and_eq_true] at admitted
  exact List.isPrefixOf_iff_prefix.mp admitted.1

theorem operator_text_initial (text : Text) : (operator text).text <+: text := by
  unfold operator
  cases found : longestOperator? text with
  | none => exact List.take_prefix 1 text
  | some operator => exact longestOperator?_initial found

/-- The first lexeme of a text is an initial part of it. -/
theorem First.text_initial
    {text : Text}
    {lexeme : Lexeme}
    (first : First text lexeme) :
    lexeme.text <+: text := by
  cases first with
  | whitespace space => exact List.takeWhile_prefix isWhitespace
  | lineComment opener => exact List.takeWhile_prefix _
  | blockComment opener => exact blockComment_stops.initial _
  | number digit => exact number_text_initial _
  | stringLiteral => exact (quoted_stops singleQuote).initial _
  | dollarQuotedString => exact dollarQuotedString_text_initial _
  | quotedIdentifier => exact (quoted_stops doubleQuote).initial _
  | word letter => exact List.takeWhile_prefix isIdentifierPart
  | punctuation mark => simp
  | operator symbol code found => exact operator_text_initial _
  | unknown symbol code missing => simp

/-- No lexeme of a text is an end mark. -/
theorem First.kind_ne_endOfFile
    {text : Text}
    {lexeme : Lexeme}
    (first : First text lexeme) :
    lexeme.kind ≠ .endOfFile := by
  cases first with
  | @dollarQuotedString rest =>
      rcases kind_dollarQuotedString ('$' :: rest) with kind | kind <;> simp [kind]
  | @word c rest letter =>
      rcases kind_word (c :: rest) with kind | kind <;> simp [kind]
  | @punctuation c rest kind mark => grind [punctuation?]
  | _ => simp [Lexeme.lineComment, Lexeme.blockComment, Lexeme.number, Lexeme.stringLiteral,
      Lexeme.quotedIdentifier, Lexeme.operator]

end Lexeme

/-- What holds of the first lexeme of every text holds of all lexemes of a text. -/
theorem forall_mem_lexemes
    {property : Lexeme → Prop}
    (first : ∀ c rest, property (Lexeme.next (c :: rest)))
    (text : Text) :
    ∀ lexeme ∈ lexemes text, property lexeme := by
  fun_induction lexemes text with
  | case1 => simp
  | case2 c rest lexeme inductionHypothesis =>
      rw [List.forall_mem_cons]
      exact ⟨first c rest, inductionHypothesis⟩

/-- The text that lexemes spell out together. -/
def Lexeme.concatText (pieces : List Lexeme) : Text :=
  pieces.flatMap Lexeme.text

@[simp] theorem Lexeme.concatText_nil : Lexeme.concatText [] = [] :=
  rfl

@[simp] theorem Lexeme.concatText_cons (piece : Lexeme) (rest : List Lexeme) :
    Lexeme.concatText (piece :: rest) = piece.text ++ Lexeme.concatText rest :=
  rfl

@[simp] theorem Lexeme.concatText_append (first second : List Lexeme) :
    Lexeme.concatText (first ++ second) =
      Lexeme.concatText first ++ Lexeme.concatText second :=
  List.flatMap_append

/-- The lexemes of a text spell out the text. -/
theorem concatText_lexemes (text : Text) : Lexeme.concatText (lexemes text) = text := by
  fun_induction lexemes text with
  | case1 => rfl
  | case2 c rest lexeme inductionHypothesis =>
      obtain ⟨after, split⟩ := (Lexeme.first_next c rest).text_initial
      change lexeme.text ++ after = c :: rest at split
      rw [Lexeme.concatText_cons, inductionHypothesis, ← split, List.drop_left]

end SqlLexer
