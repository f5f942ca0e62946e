import SqlLexer.Proofs.Text.Numeral
import SqlLexer.Text.Listed

/-!
# Quoted texts read back

A quoted text is read one character at a time, and a character is either written as it is or as an
escape.  Where every character is read back as it was written, whatever follows it, so is every
text.
-/

namespace SqlLexer
namespace Text

/-- Reads characters up to the next quote, each of them with a given reader.  A reader that takes
nothing is not tried again. -/
def readQuoted (readChar : Text → Option (Char × Text)) (text : Text) : Option (Text × Text) :=
  match text with
  | [] => none
  | c :: tail =>
      if c = '\x22' then some ([], tail)
      else
        match readChar (c :: tail) with
        | none => none
        | some (value, rest) =>
            if _ : rest.length < (c :: tail).length then
              (readQuoted readChar rest).map fun (values, after) => (value :: values, after)
            else none
termination_by text.length
decreasing_by assumption

/-- What is read back from a quoted text starts with the character written first. -/
theorem readQuoted_append
    {readChar : Text → Option (Char × Text)}
    {written behind : Text}
    {c : Char}
    (nonempty : written ≠ [])
    (noQuote : written.head? ≠ some '\x22')
    (isRead : readChar (written ++ behind) = some (c, behind)) :
    readQuoted readChar (written ++ behind) =
      (readQuoted readChar behind).map fun (values, after) => (c :: values, after) := by
  obtain ⟨d, tail, rfl⟩ := List.exists_cons_of_ne_nil nonempty
  have shorter : behind.length < (d :: (tail ++ behind)).length := by
    rw [List.length_cons, List.length_append]
    omega
  rw [List.cons_append] at isRead ⊢
  rw [readQuoted, if_neg (by simpa using noQuote)]
  simp only [isRead, dif_pos shorter]

/-- A way to write characters that can be read back. -/
structure IsReadBack
    (readChar : Text → Option (Char × Text))
    (write : Char → Text) : Prop where
  readChar_write : ∀ c rest, readChar (write c ++ rest) = some (c, rest)
  nonempty : ∀ c, write c ≠ []
  noQuote : ∀ c, (write c).head? ≠ some '\x22'

/-- A text is read back from the written forms of its characters and the closing quote. -/
theorem readQuoted_flatMap
    {readChar : Text → Option (Char × Text)}
    {write : Char → Text}
    (readBack : IsReadBack readChar write)
    (text after : Text) :
    readQuoted readChar (text.flatMap write ++ '\x22' :: after) = some (text, after) := by
  induction text with
  | nil => rw [List.flatMap_nil, List.nil_append, readQuoted, if_pos rfl]
  | cons c rest inductionHypothesis =>
      rw [List.flatMap_cons, List.append_assoc, readQuoted_append (readBack.nonempty c)
        (readBack.noQuote c) (readBack.readChar_write c _), inductionHypothesis]
      rfl

/-! ## Escapes -/

/-- What a backslash may introduce: letters that stand for characters, and after the letter `u`
the code point of a character.  Some characters may not stand for themselves. -/
structure Escapes where
  letters : List (Char × Char)
  readCode : Text → Option (Char × Text)
  isPlain : Char → Bool

/-- Reads what follows a backslash. -/
def Escapes.readEscape (escapes : Escapes) : Text → Option (Char × Text)
  | [] => none
  | letter :: rest =>
      if letter = 'u' then escapes.readCode rest
      else (escapes.letters.lookup letter).map fun c => (c, rest)

/-- Reads one character at the head of a text. -/
def Escapes.readChar (escapes : Escapes) : Text → Option (Char × Text)
  | [] => none
  | c :: rest =>
      if c = '\\' then escapes.readEscape rest
      else if escapes.isPlain c then some (c, rest)
      else none

theorem Escapes.readChar_of_isPlain
    {escapes : Escapes}
    {c : Char}
    (notBackslash : c ≠ '\\')
    (plain : escapes.isPlain c)
    (rest : Text) :
    escapes.readChar (c :: rest) = some (c, rest) := by
  rw [readChar, if_neg notBackslash, if_pos plain]

/-- Reads the hexadecimal digits of a code point in braces. -/
def readBraced : Text → Option (Char × Text)
  | '\x7b' :: rest =>
      match rest.dropWhile (· ≠ '\x7d'), ofHexadecimal? (rest.takeWhile (· ≠ '\x7d')) with
      | _ :: after, some code => if code.isValidChar then some (Char.ofNat code, after) else none
      | _, _ => none
  | _ => none

/-- The escapes of listings. -/
def listingEscapes : Escapes where
  letters :=
    [('0', '\x00'), ('t', '\t'), ('r', '\r'), ('n', '\n'), ('\x22', '\x22'), ('\\', '\\'),
      ('\x27', '\x27')]
  readCode := readBraced
  isPlain _ := true

/-- The text whose form in a listing is given. -/
def unlisted? : Text → Option Text
  | '\x22' :: rest =>
      match readQuoted listingEscapes.readChar rest with
      | some (text, []) => some text
      | _ => none
  | _ => none

/-- A character is read back from its number between braces. -/
theorem readBraced_hexadecimal (c : Char) (rest : Text) :
    readBraced ('\x7b' :: (hexadecimal c.toNat ++ '\x7d' :: rest)) = some (c, rest) := by
  have noBrace : ∀ d ∈ hexadecimal c.toNat, decide (d ≠ '\x7d') = true :=
    forall_mem_hexadecimal _ (by decide) c.toNat
  rw [readBraced, List.dropWhile_append_of_pos noBrace, List.takeWhile_append_of_pos noBrace,
    List.dropWhile_cons_of_neg (by simp), List.takeWhile_cons_of_neg (by simp), List.append_nil,
    ofHexadecimal?_hexadecimal]
  have valid : c.toNat.isValidChar := c.valid
  simp only [valid, if_true, Char.ofNat_toNat]

/-- A listing writes every character so that it can be read back. -/
theorem isReadBack_listedChar : IsReadBack listingEscapes.readChar listedChar where
  readChar_write := by
    intro c rest
    unfold listedChar
    repeat' split
    -- The characters with a letter of their own are fixed ones.
    any_goals
      subst c
      rfl
    · have isRead := readBraced_hexadecimal c rest
      simpa [Escapes.readChar, Escapes.readEscape, listingEscapes] using isRead
    · exact Escapes.readChar_of_isPlain ‹_› rfl rest
  nonempty := by
    intro c
    unfold listedChar
    repeat' split
    all_goals simp
  noQuote := by
    intro c
    unfold listedChar
    repeat' split
    all_goals simp
    assumption

@[simp] theorem unlisted?_listed (text : Text) : unlisted? (listed text) = some text := by
  rw [listed, unlisted?, readQuoted_flatMap isReadBack_listedChar]

end Text
end SqlLexer
