import SqlLexer.CharClass
import SqlLexer.Json
import SqlLexer.Proofs.Text.Escape

/-!
# A reader of JSON documents

The documents may have whitespace wherever JSON allows it and every escape that JSON has, so the
reader is not made for the indented form alone.  Their numbers are whole.
-/

namespace SqlLexer
namespace Json

open Text (Escapes IsReadBack ofDecimal ofHexadecimal? readQuoted)

/-! ## Strings -/

/-- Reads four hexadecimal digits. -/
def readFour (text : Text) : Option (Nat × Text) :=
  let digits := text.take 4
  if digits.length = 4 then (ofHexadecimal? digits).map fun code => (code, text.drop 4) else none

/-- The character beyond the first plane that two surrogates stand for. -/
def ofSurrogates? (high low : Nat) : Option Char :=
  if 0xD800 ≤ high ∧ high < 0xDC00 ∧ 0xDC00 ≤ low ∧ low < 0xE000 then
    some (Char.ofNat (0x10000 + 0x400 * (high - 0xD800) + (low - 0xDC00)))
  else none

/-- Reads the code of a character, or that of a surrogate and the escape of another one. -/
def readCode (text : Text) : Option (Char × Text) :=
  match readFour text with
  | none => none
  | some (code, rest) =>
      if code.isValidChar then some (Char.ofNat code, rest)
      else
        match rest with
        | '\\' :: 'u' :: behind =>
            match readFour behind with
            | some (low, after) => (ofSurrogates? code low).map fun c => (c, after)
            | none => none
        | _ => none

/-- The escapes of strings. -/
def stringEscapes : Escapes where
  letters :=
    [('\x22', '\x22'), ('\\', '\\'), ('/', '/'), ('b', '\x08'), ('f', '\x0c'), ('n', '\n'),
      ('r', '\r'), ('t', '\t')]
  readCode := readCode
  isPlain c := 32 ≤ c.toNat

theorem readCode_fourDigits
    {c : Char}
    (control : c.toNat < 32)
    (rest : Text) :
    readCode (fourDigits c.toNat ++ rest) = some (c, rest) := by
  have four : ∀ code < 32, (fourDigits code).length = 4 ∧
      ofHexadecimal? (fourDigits code) = some code := by decide
  obtain ⟨length, value⟩ := four c.toNat control
  have isFour : readFour (fourDigits c.toNat ++ rest) = some (c.toNat, rest) := by
    rw [readFour, List.take_left' length, List.drop_left' length, value]
    exact if_pos length
  have valid : c.toNat.isValidChar := c.valid
  simp only [readCode, isFour, valid, if_true, Char.ofNat_toNat]

/-- A string writes every character so that it can be read back. -/
theorem isReadBack_stringChar : IsReadBack stringEscapes.readChar stringChar where
  readChar_write := by
    intro c rest
    unfold stringChar
    repeat' split
    any_goals
      subst c
      rfl
    · have isRead := readCode_fourDigits ‹_› rest
      simpa [Escapes.readChar, Escapes.readEscape, stringEscapes] using isRead
    · rename_i large
      exact Escapes.readChar_of_isPlain ‹_› (decide_eq_true (Nat.le_of_not_lt large)) rest
  nonempty := by
    intro c
    unfold stringChar
    repeat' split
    all_goals simp
  noQuote := by
    intro c
    unfold stringChar
    repeat' split
    all_goals simp
    assumption

/-! ## The reader -/

/-- What follows the whitespace at the head of a text. -/
def skipSpace (text : Text) : Text :=
  text.dropWhile isWhitespace

/-- Reads a number.  Only zero itself starts with a zero. -/
def readNumber (text : Text) : Option (Json × Text) :=
  let digits := text.takeWhile Char.isDigit
  if digits = [] ∨ digits.head? = some '0' ∧ digits ≠ ['0'] then none
  else some (.number (ofDecimal digits), text.dropWhile Char.isDigit)

/-- Reads one of the three names of values. -/
def readName (text : Text) : Option (Json × Text) :=
  if "null".toList.isPrefixOf text then some (.null, text.drop 4)
  else if "true".toList.isPrefixOf text then some (.bool true, text.drop 4)
  else if "false".toList.isPrefixOf text then some (.bool false, text.drop 5)
  else none

/-- Reads a value that holds no others. -/
def readScalar : Text → Option (Json × Text)
  | [] => none
  | c :: rest =>
      if c = '\x22' then
        (readQuoted stringEscapes.readChar rest).map fun (value, after) => (.string value, after)
      else if c.isDigit then readNumber (c :: rest)
      else readName (c :: rest)

/-- Reads items with commas between them and the closing mark behind them. -/
def readItems
    {α : Type}
    (read : Text → Option (α × Text))
    (closing : Char)
    (text : Text) : Option (List α × Text) :=
  match read text with
  | none => none
  | some (item, rest) =>
      match skipSpace rest with
      | [] => none
      | c :: after =>
          if c = closing then some ([item], after)
          else if c = ',' then
            if _ : after.length < text.length then
              (readItems read closing after).map fun (items, behind) => (item :: items, behind)
            else none
          else none
termination_by text.length
decreasing_by assumption

/-- Reads any number of items and the closing mark behind them. -/
def readSequence
    {α : Type}
    (read : Text → Option (α × Text))
    (closing : Char)
    (text : Text) : Option (List α × Text) :=
  match skipSpace text with
  | [] => none
  | c :: rest => if c = closing then some ([], rest) else readItems read closing text

/-- Reads a key, a colon and a value. -/
def readField
    (read : Text → Option (Json × Text))
    (text : Text) : Option ((Text × Json) × Text) :=
  match skipSpace text with
  | '\x22' :: rest =>
      match readQuoted stringEscapes.readChar rest with
      | none => none
      | some (key, afterKey) =>
          match skipSpace afterKey with
          | ':' :: behind => (read behind).map fun (value, after) => ((key, value), after)
          | _ => none
  | _ => none

/-- Reads a value with no more than some levels of others in it. -/
def readValue : Nat → Text → Option (Json × Text)
  | 0, text => readScalar (skipSpace text)
  | depth + 1, text =>
      match skipSpace text with
      | [] => none
      | c :: rest =>
          if c = '[' then
            (readSequence (readValue depth) ']' rest).map fun (elements, after) =>
              (.array elements, after)
          else if c = '\x7b' then
            (readSequence (readField (readValue depth)) '\x7d' rest).map fun (fields, after) =>
              (.object fields, after)
          else readScalar (c :: rest)

/-- The value of a document.  A text cannot hold more levels than characters. -/
def parse? (document : Text) : Option Json :=
  match readValue document.length document with
  | some (value, rest) => if skipSpace rest = [] then some value else none
  | none => none

end Json
end SqlLexer
