import SqlLexer.Proofs.Cursor.Split

/-!
# Lexing step by step

A lexer moves one cursor over its source.  What the cursor sees decides how the next lexeme is
scanned, and the token of the lexeme is cut out of the source between where the cursor was and where
it has come to.  From the start of any source the lexer comes to the end, and what it has collected
by then are the tokens of the source.
-/

namespace SqlLexer
namespace Cursor

open Lexeme

variable {cursor : Cursor} {c : Char} {rest : Text}

/-! ## The next lexeme -/

/-- Consumes one character after the other, as long as they are of a kind. -/
def goOnRun (condition : Char → Bool) (kind : Kind) (cursor : Cursor) : Part (Kind × Cursor) :=
  (cursor.goOnWhile condition).map (Prod.mk kind)

/-- Consumes a word, which is a keyword if the table of keywords has it. -/
def goOnWord (cursor : Cursor) : Part (Kind × Cursor) := do
  let (kind, after) ← cursor.goOnRun isIdentifierPart .identifier
  if Word.isKeyword (after.slice cursor.offset after.offset) then .some (.keyword, after)
  else .some (kind, after)

/-- Consumes one character. -/
def goOnSingle (kind : Kind) (cursor : Cursor) : Part (Kind × Cursor) :=
  .some (kind, cursor.advance.2)

/-- Consumes the lexeme that lies ahead, as what the cursor sees tells its form. -/
def goOnNext (cursor : Cursor) : Part (Kind × Cursor) :=
  if isWhitespace cursor.current then cursor.goOnRun isWhitespace .whitespace
  else if cursor.startsWith lineOpener then cursor.goOn .lineComment
  else if cursor.startsWith blockOpener then cursor.goOn .blockComment
  else if isDigit cursor.current then cursor.goOn .number
  else if cursor.current = singleQuote then cursor.goOn .stringLiteral
  else if cursor.current = '$' then cursor.goOn .dollarQuotedString
  else if cursor.current = doubleQuote then cursor.goOn .quotedIdentifier
  else if isIdentifierStart cursor.current then cursor.goOnWord
  else
    match punctuation? cursor.current with
    | some kind => cursor.goOnSingle kind
    | none =>
        if isOperatorChar cursor.current || (longestOperator? cursor.remaining).isSome then
          cursor.goOn .operator
        else cursor.goOnSingle .unknown

/-- Consumes the lexeme that lies ahead and reports it. -/
def scanNext (cursor : Cursor) : Part (Scan × Cursor) :=
  cursor.goOnNext.map fun (kind, after) => (⟨kind, distance? cursor.offset after.offset⟩, after)

theorem goOnRun_eq
    {condition : Char → Bool}
    (kind : Kind)
    (stops : condition '\x00' = false) :
    cursor.goOnRun condition kind =
      .some (kind, cursor.pass (cursor.remaining.takeWhile condition)) := by
  rw [goOnRun, goOnWhile_of_stops stops, Part.map_some, advanceWhile]

/-- A word is cut out of the source to be looked up, and it is the word that lies ahead. -/
theorem goOnWord_eq (ahead : cursor.remaining = c :: rest) :
    cursor.goOnWord =
      .some ((word cursor.remaining).kind, cursor.pass (word cursor.remaining).text) := by
  have split : cursor.remaining = cursor.remaining.takeWhile isIdentifierPart ++
      cursor.remaining.dropWhile isIdentifierPart :=
    List.takeWhile_append_dropWhile.symm
  have nonempty : cursor.remaining ≠ [] := ahead ▸ List.cons_ne_nil c rest
  rw [goOnWord, goOnRun_eq .identifier (by decide), Part.bind_eq_bind, Part.bind_some]
  dsimp only
  rw [slice_pass split nonempty, word]
  split <;> rfl

theorem goOnSingle_eq (kind : Kind) (ahead : cursor.remaining = c :: rest) :
    cursor.goOnSingle kind = .some (kind, cursor.pass [c]) := by
  rw [goOnSingle, advance_of_eq_cons ahead]

/-- What the cursor sees decides between the forms as the text ahead does, and each of them is
consumed to its end. -/
theorem goOnNext_eq (ahead : cursor.remaining = c :: rest) :
    cursor.goOnNext =
      .some ((next cursor.remaining).kind, cursor.pass (next cursor.remaining).text) := by
  have reads : ∀ form : Form, cursor.goOn form =
      .some ((form.read cursor.remaining).kind, cursor.pass (form.read cursor.remaining).text) :=
    fun form => goOn_eq fun _ => isSteady_of_eq_cons ahead
  have singles : ∀ kind, cursor.goOnSingle kind = .some (kind, cursor.pass [c]) :=
    fun kind => goOnSingle_eq kind ahead
  rw [goOnNext, current_of_eq_cons ahead, startsWith, startsWith,
    goOnRun_eq .whitespace (by decide), goOnWord_eq ahead]
  simp only [reads, Form.read, singles]
  rw [ahead, next]
  -- Both sides ask the same questions about the first character and the text.
  cases punctuation? c <;>
    simp only [apply_ite fun lexeme : Lexeme => Part.some (lexeme.kind, cursor.pass lexeme.text)]

/-- The scan of the lexeme ahead tells its kind and how many bytes it has. -/
theorem scanNext_eq (ahead : cursor.remaining = c :: rest) :
    cursor.scanNext =
      .some
        (⟨(next cursor.remaining).kind, some (Text.byteLength (next cursor.remaining).text)⟩,
          cursor.pass (next cursor.remaining).text) := by
  rw [scanNext, goOnNext_eq ahead, Part.map_some]
  dsimp only
  rw [distance?_pass]

/-! ## All lexemes -/

/-- Pushes the token of the lexeme ahead, or the end mark where the end of the source is reached,
and then the tokens are complete. -/
def lexStep (state : List Token × Cursor) : Part (List Token ⊕ List Token × Cursor) :=
  let (tokens, cursor) := state
  if cursor.isAtEnd then
    .some (.inl (tokens ++
      [.ofSpan .endOfFile ⟨cursor.offset, 0⟩ cursor.location cursor.source]))
  else do
    let (scanned, after) ← cursor.scanNext
    let length ← Part.ofOption scanned.length
    .some (.inr
      (tokens ++ [.ofSpan scanned.kind ⟨cursor.offset, length⟩ cursor.location cursor.source],
        after))

/-- Collects the tokens of the lexemes ahead behind those that are already collected. -/
def goOnTokens : List Token × Cursor → Part (List Token) :=
  partLoop lexStep

variable {consumed after : Text}

/-- The source text under the bytes from a cursor on is the text of so many bytes ahead. -/
theorem IsBetween.ofSpan_eq
    (taken : Text)
    (between : cursor.IsBetween consumed (taken ++ after))
    (kind : Kind) :
    Token.ofSpan kind ⟨cursor.offset, Text.byteLength taken⟩ cursor.location cursor.source =
      ⟨kind, ⟨cursor.offset, Text.byteLength taken⟩, cursor.location, taken⟩ := by
  rw [Token.ofSpan, Span.slice, Span.stop, between.source_eq, between.offset_eq, Text.slice_append]

/-- At the end of the source, the end mark completes the tokens. -/
theorem lexStep_of_isAtEnd
    (tokens : List Token)
    (between : cursor.IsBetween consumed []) :
    lexStep (tokens, cursor) =
      .some (.inl (tokens ++ placeLexemes cursor.offset cursor.location [])) := by
  have atEnd : cursor.isAtEnd := between.isAtEnd_iff.mpr rfl
  have mark := IsBetween.ofSpan_eq [] between .endOfFile
  rw [Text.byteLength_nil] at mark
  rw [lexStep, atEnd, if_pos rfl, mark, placeLexemes_nil]

/-- In front of a text, a step takes the first lexeme and leaves the text behind it. -/
theorem lexStep_of_eq_cons
    (tokens : List Token)
    (between : cursor.IsBetween consumed (c :: rest))
    (split : c :: rest = (next (c :: rest)).text ++ after) :
    lexStep (tokens, cursor) =
      .some (.inr
        (tokens ++
            [⟨(next (c :: rest)).kind,
              ⟨cursor.offset, Text.byteLength (next (c :: rest)).text⟩, cursor.location,
              (next (c :: rest)).text⟩],
          cursor.pass (next (c :: rest)).text)) := by
  have ahead := between.remaining_eq
  rw [split] at between
  rw [lexStep, isAtEnd_of_eq_cons ahead, if_neg Bool.false_ne_true, scanNext_eq ahead, ahead,
    Part.bind_eq_bind, Part.bind_some]
  dsimp only
  rw [Part.ofOption, Part.bind_eq_bind, Part.bind_some, between.ofSpan_eq]

/-- The tokens behind those that are already collected are the lexemes of the remaining text in
their places. -/
theorem goOnTokens_eq
    (tokens : List Token)
    (between : cursor.IsBetween consumed rest) :
    goOnTokens (tokens, cursor) =
      .some (tokens ++ placeLexemes cursor.offset cursor.location (lexemes rest)) := by
  -- The cursor stays between two texts, and each step shortens the one that remains.
  fun_induction lexemes rest generalizing cursor consumed tokens with
  | case1 => exact partLoop_of_inl (lexStep_of_isAtEnd tokens between)
  | case2 c rest lexeme =>
      rename_i inductionHypothesis
      have split := List.prefix_append_drop (first_next c rest).text_initial
      have step := lexStep_of_eq_cons tokens between split
      rw [split] at between
      rw [goOnTokens, partLoop_of_inr step]
      refine (inductionHypothesis _ between.pass).trans ?_
      rw [placeLexemes_cons, List.append_assoc, List.singleton_append]
      rfl

end Cursor

open Cursor

/-- The tokens that the lexer collects on its way through a source, unless the source is refused. -/
def tokenizeStepwise (source : Text) : Except SourceError (Part (List Token)) := do
  checkSource source
  return goOnTokens ([], start source)

/-- The lexer comes to the end of every source that is not refused, and then it has collected the
tokens of the source. -/
theorem tokenizeStepwise_eq (source : Text) :
    tokenizeStepwise source = (tokenize source).map Part.some := by
  have lexed : goOnTokens ([], start source) = .some (tokensOf source) :=
    goOnTokens_eq [] (isBetween_start source)
  rw [tokenizeStepwise, tokenize]
  cases checkSource source with
  | error error => rfl
  | ok _ => exact congrArg Except.ok lexed

end SqlLexer
