import SqlLexer.Proofs.CommandLine.Listing
import SqlLexer.Proofs.Json.RoundTrip

/-!
# Listings of all tokens

A listing of all tokens of a file holds the file: the texts of the tokens can be read back from
it, and they make up the content of the file.  This is so for the plain listing, which has one
line for each token, and for the document.
-/

namespace SqlLexer

open Text (listed unlisted?)

/-- The tokens of a source spell it out, the end mark with them. -/
theorem flatten_text_tokensOf (source : Text) :
    ((tokensOf source).map Token.text).flatten = source := by
  have texts : (tokensOf source).map Token.text =
      ((tokensOf source).map Token.lexeme).map Lexeme.text := by
    rw [List.map_map]
    rfl
  rw [texts, tokensOf, map_lexeme_placeLexemes, List.map_append, List.flatten_append]
  have spelled := concatText_lexemes source
  rw [Lexeme.concatText, List.flatMap_def] at spelled
  simp [spelled]

/-! ## Characters of a listing -/

theorem Text.feed_not_mem_listedChar (c : Char) : '\n' ∉ listedChar c := by
  have digits : '\n' ∉ hexadecimal c.toNat := fun member =>
    forall_mem_hexadecimal (· ≠ '\n') (by decide) c.toNat _ member rfl
  unfold listedChar
  repeat' split
  any_goals decide
  · simp [digits]
  · rename_i notFeed _ _ _
    exact List.not_mem_cons_of_ne_of_not_mem (Ne.symm notFeed) List.not_mem_nil

theorem Text.feed_not_mem_listed (text : Text) : '\n' ∉ listed text := by
  simp [listed, feed_not_mem_listedChar]

theorem Kind.not_mem_label (kind : Kind) :
    '\n' ∉ kind.label.toList ∧ '\x22' ∉ kind.label.toList := by
  cases kind <;> decide

namespace CommandLine

/-- The line of a token. -/
def tokenEntry (token : Token) : Text :=
  locationEntry token.location ++ ' ' :: token.kind.label.toList ++ ' ' :: listed token.text

/-- The text in the quoted last field of a line. -/
def textOfLine? (line : Text) : Option Text :=
  unlisted? (line.dropWhile (· ≠ '\x22'))

/-- The value of a field of an object. -/
def fieldOf? (key : Text) : Json → Option Json
  | .object fields => fields.lookup key
  | _ => none

/-- The field `text` of an object, if it is a string. -/
def textOfValue? (value : Json) : Option Text :=
  match fieldOf? "text".toList value with
  | some (.string text) => some text
  | _ => none

/-- The fields `text` of the objects in an array. -/
def textsOfDocument? : Json → Option (List Text)
  | .array elements => elements.mapM textOfValue?
  | _ => none

/-- The entry of a token has no line feed. -/
theorem feed_not_mem_tokenEntry (token : Token) : '\n' ∉ tokenEntry token := by
  have place := not_mem_locationEntry (c := '\n') (by decide) (by decide) token.location
  simp [tokenEntry, place, token.kind.not_mem_label.1, Text.feed_not_mem_listed]

/-- The last field of a line is the only one in quotes. -/
theorem textOfLine?_tokenEntry (token : Token) :
    textOfLine? (tokenEntry token) = some token.text := by
  have place := not_mem_locationEntry (c := '\x22') (by decide) (by decide) token.location
  have noQuote : '\x22' ∉
      locationEntry token.location ++ ' ' :: token.kind.label.toList ++ [' '] := by
    simp [place, token.kind.not_mem_label.2]
  have split : tokenEntry token =
      locationEntry token.location ++ ' ' :: token.kind.label.toList ++ [' '] ++
        listed token.text := by
    simp [tokenEntry]
  rw [textOfLine?, split, List.dropWhile_append_of_pos, listed,
    List.dropWhile_cons_of_neg (by decide), ← listed, Text.unlisted?_listed]
  intro c member
  exact decide_eq_true fun isQuote => noQuote (isQuote ▸ member)

/-- The text of a token is a field of its object. -/
theorem textOfValue?_tokenJson (token : Token) :
    textOfValue? (tokenJson token) = some token.text :=
  rfl

/-- A row of written items is read back when each item is. -/
theorem mapM_map_eq_some
    {α β γ : Type}
    {write : α → β}
    {read : β → Option γ}
    {value : α → γ}
    (reads : ∀ item, read (write item) = some (value item))
    (items : List α) :
    (items.map write).mapM read = some (items.map value) := by
  have each : read ∘ write = fun item => pure (value item) := funext reads
  rw [List.mapM_map, each, List.mapM_pure]
  rfl

/-- The listings of all tokens of an accepted file lose nothing.  The plain one has a line for
every token, the end mark included, and the texts in the last fields of the lines make up the
content of the file.  So do the texts in the fields of the document. -/
theorem run_tokens_lossless
    {contentOf : Text → Except FileError ByteArray}
    {plain json : List Text}
    {file content : Text}
    (askedPlain : Request.ofArguments plain = .ok (.run (.tokens true false) [file]))
    (askedJson : Request.ofArguments json = .ok (.run (.tokens true true) [file]))
    (stored : contentOf file = .ok content.utf8Encode)
    (solid : ∃ c ∈ content, c ∉ [' ', '\t', '\r', '\n']) :
    ∃ tokens listing lines document value,
      tokenize content = .ok tokens ∧
      run contentOf plain = .ok ⟨0, listing, []⟩ ∧
      listing.HasLines lines ∧
      lines.length = tokens.length ∧
      lines.mapM textOfLine? = some (tokens.map Token.text) ∧
      run contentOf json = .ok ⟨0, document, []⟩ ∧
      Json.parse? document = some value ∧
      textsOfDocument? value = some (tokens.map Token.text) ∧
      (tokens.map Token.text).flatten = content := by
  have accepted := exists_solid solid
  let tokens := tokensOf content
  have hasLines : (listTokens true false tokens).HasLines (tokens.map tokenEntry) :=
    Text.HasLines.flatMap fun token _ => feed_not_mem_tokenEntry token
  have value : Json.parse? (listTokens true true tokens) = some (.array (tokens.map tokenJson)) :=
    Json.parse?_pretty_append _ (List.forall_mem_singleton.mpr rfl)
  exact ⟨tokens, _, tokens.map tokenEntry, _, _, (tokenize_eq_ok_iff _ _).mpr ⟨accepted, rfl⟩,
    run_of_accepted askedPlain stored solid, hasLines, List.length_map tokenEntry,
    mapM_map_eq_some textOfLine?_tokenEntry tokens, run_of_accepted askedJson stored solid,
    value, mapM_map_eq_some textOfValue?_tokenJson tokens, flatten_text_tokensOf content⟩

/-- A file with a string of quotes, backslashes, controls and a combining mark, and a comment that
nothing ends, and no other file. -/
def escapedText (name : Text) : Except FileError ByteArray :=
  if name = "a.sql".toList then .ok "'\"\\\n\t\x00\x1be\u0301' /*\r\u2028".toUTF8
  else .error .missing

theorem escapedText_eq :
    escapedText "a.sql".toList =
      .ok "'\"\\\n\t\x00\x1be\u0301' /*\r\u2028".toList.utf8Encode := by
  rw [String.utf8Encode_toList]
  rfl

theorem run_tokens_lossless_escapedText :
    ∃ tokens listing lines document value,
      tokenize "'\"\\\n\t\x00\x1be\u0301' /*\r\u2028".toList = .ok tokens ∧
      run escapedText (["tokens", "--all", "a.sql"].map String.toList) = .ok ⟨0, listing, []⟩ ∧
      listing.HasLines lines ∧
      lines.length = tokens.length ∧
      lines.mapM textOfLine? = some (tokens.map Token.text) ∧
      run escapedText (["tokens", "--json", "a.sql", "--all"].map String.toList) =
        .ok ⟨0, document, []⟩ ∧
      Json.parse? document = some value ∧
      textsOfDocument? value = some (tokens.map Token.text) ∧
      (tokens.map Token.text).flatten = "'\"\\\n\t\x00\x1be\u0301' /*\r\u2028".toList :=
  run_tokens_lossless rfl rfl escapedText_eq ⟨'e', by decide, by decide⟩

end CommandLine
end SqlLexer
