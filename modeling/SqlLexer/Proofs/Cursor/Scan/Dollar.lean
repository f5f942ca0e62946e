import SqlLexer.Proofs.Cursor.Stepwise
import SqlLexer.Proofs.Placement
import SqlLexer.Proofs.Text.Occurrence

/-!
# Scanning from a dollar

A dollar and a tag are consumed to see whether another dollar follows.  If it does, the delimiter is
cut out of the source and the string is consumed through the next occurrence, and otherwise the
cursor goes back and consumes the first dollar alone.
-/

namespace SqlLexer
namespace Cursor

open Lexeme

variable {cursor : Cursor}

/-! ## Scanners -/

/-- Consumes the first character and the tag behind it. -/
def goOnTag (cursor : Cursor) : Part Cursor :=
  if isIdentifierStart cursor.advance.2.current then cursor.advance.2.goOnWhile isTagPart
  else .some cursor.advance.2

/-- The offset behind the next occurrence of a delimiter, or at the end of the source when there is
none. -/
def offsetThrough (delimiter : Text) (cursor : Cursor) : Nat :=
  match Text.find? delimiter cursor.remaining with
  | some distance => cursor.offset + distance + Text.byteLength delimiter
  | none => Text.byteLength cursor.source

/-- Consumes a dollar-quoted string, or goes back and consumes one character as an operator. -/
def goOnDollar (cursor : Cursor) : Part (Kind × Cursor) := do
  let tagged ← cursor.goOnTag
  if tagged.current = '$' then
    let opened := tagged.advance.2
    let delimiter := opened.slice cursor.offset opened.offset
    (opened.goOnTo (opened.offsetThrough delimiter)).map (Prod.mk .dollarQuotedString)
  else .some (.operator, (tagged.restore cursor.mark).advance.2)

/-! ## Tags and delimiters -/

/-- The tag behind a dollar is consumed, which may be empty. -/
theorem goOnTag_eq {opener : Char} {rest : Text} (ahead : cursor.remaining = opener :: rest) :
    cursor.goOnTag = .some (cursor.pass (opener :: dollarTag rest)) := by
  have behind := remaining_pass_cons ahead
  rw [goOnTag, advance_of_eq_cons ahead]
  dsimp only
  cases rest with
  | nil =>
      rw [current_of_eq_nil behind]
      rfl
  | cons c rest =>
      rw [current_of_eq_cons behind, dollarTag]
      by_cases start : isIdentifierStart c
      · have inTag : isTagPart c := by
          have notDollar := ne_of_class start '$' (by decide)
          simp [isTagPart, isIdentifierPart, start, notDollar]
        rw [if_pos start, if_pos start, goOnWhile_of_stops (by decide), advanceWhile, behind,
          List.takeWhile_cons_of_pos inTag, pass_pass_cons]
      · rw [if_neg start, if_neg start]

/-- The next occurrence of a delimiter is consumed with all that lies in front of it, or
everything is if there is none. -/
theorem goOnTo_offsetThrough
    {delimiter : Text}
    (isEnd : Text.byteLength cursor.source = cursor.offset + Text.byteLength cursor.remaining) :
    cursor.goOnTo (cursor.offsetThrough delimiter) =
      .some (cursor.pass (Text.throughFirst delimiter cursor.remaining)) := by
  rw [offsetThrough]
  cases found : Text.find? delimiter cursor.remaining with
  | some distance =>
      obtain ⟨before, after, cut, rfl⟩ := Text.exists_isCutAtFirst_of_find? found
      rw [cut.throughFirst_eq]
      have ahead : cursor.remaining = (before ++ delimiter) ++ after := by
        rw [List.append_assoc]
        exact cut.split
      refine goOnTo_eq ahead ?_
      rw [Text.byteLength_append]
      exact Nat.add_assoc _ _ _
  | none =>
      rw [Text.throughFirst_of_find?_eq_none found]
      exact goOnTo_eq (List.append_nil _).symm isEnd

/-- A dollar that opens a string is followed by a tag and another dollar. -/
theorem dollarDelimiter?_cons (opener : Char) (rest : Text) :
    dollarDelimiter? (opener :: rest) =
      if (rest.drop (dollarTag rest).length).head? = some '$' then
        some (opener :: (dollarTag rest ++ ['$']))
      else none := by
  rw [dollarDelimiter?]
  cases rest.drop (dollarTag rest).length with
  | nil => rfl
  | cons closer after =>
      by_cases closes : closer = '$' <;> simp [closes]

/-- What a cursor has passed over is cut out of its source again. -/
theorem slice_pass
    {taken rest : Text}
    (ahead : cursor.remaining = taken ++ rest)
    (nonempty : cursor.remaining ≠ []) :
    (cursor.pass taken).slice cursor.offset (cursor.pass taken).offset = taken := by
  obtain ⟨before, source, offset⟩ := exists_source_eq nonempty
  rw [ahead] at source
  change Text.slice cursor.source cursor.offset (cursor.offset + Text.byteLength taken) = taken
  rw [source, offset, Text.slice_append]

/-- Behind its delimiter, a dollar-quoted string is consumed to its end. -/
theorem goOnTo_delimiter
    {delimiter after : Text}
    (ahead : cursor.remaining = delimiter ++ after)
    (nonempty : cursor.remaining ≠ []) :
    (cursor.pass delimiter).goOnTo ((cursor.pass delimiter).offsetThrough delimiter) =
      .some (cursor.pass (delimiter ++ Text.throughFirst delimiter after)) := by
  obtain ⟨before, source, offset⟩ := exists_source_eq nonempty
  rw [ahead] at source
  have behind : (cursor.pass delimiter).remaining = after := remaining_pass ahead
  rw [goOnTo_offsetThrough, behind, ← pass_append]
  change Text.byteLength cursor.source =
    cursor.offset + Text.byteLength delimiter + Text.byteLength (cursor.pass delimiter).remaining
  rw [behind, source, offset, Text.byteLength_append, Text.byteLength_append, Nat.add_assoc]

/-- A dollar is consumed with the string it opens, or alone. -/
theorem goOnDollar_eq (cursor : Cursor) :
    cursor.goOnDollar =
      .some ((dollarQuotedString cursor.remaining).kind,
        cursor.pass (dollarQuotedString cursor.remaining).text) := by
  cases ahead : cursor.remaining with
  | nil =>
      have tag : cursor.goOnTag = .some cursor := by
        rw [goOnTag, advance_of_eq_nil ahead, current_of_eq_nil ahead]
        rfl
      rw [goOnDollar, tag, Part.bind_eq_bind, Part.bind_some, current_of_eq_nil ahead,
        restore_mark, advance_of_eq_nil ahead]
      rfl
  | cons opener rest =>
      have initial : opener :: dollarTag rest <+: cursor.remaining := by
        rw [ahead]
        exact List.cons_prefix_cons.mpr ⟨rfl, dollarTag_initial rest⟩
      have behind : (cursor.pass (opener :: dollarTag rest)).remaining =
          rest.drop (dollarTag rest).length := by
        rw [remaining_pass_initial initial, ahead, List.length_cons, List.drop_succ_cons]
      have isTagged : (cursor.pass (opener :: dollarTag rest)).current = '$' ↔
          (rest.drop (dollarTag rest).length).head? = some '$' := by
        rw [current_eq_iff (by decide), behind]
      rw [goOnDollar, goOnTag_eq ahead, Part.bind_eq_bind, Part.bind_some, dollarQuotedString,
        dollarDelimiter?_cons]
      by_cases closes : (rest.drop (dollarTag rest).length).head? = some '$'
      · obtain ⟨after, isAfter⟩ := List.head?_eq_some_iff.mp closes
        have isRest := List.prefix_append_drop (dollarTag_initial rest)
        rw [isAfter] at behind isRest
        have opened : (cursor.pass (opener :: dollarTag rest)).advance.2 =
            cursor.pass (opener :: (dollarTag rest ++ ['$'])) := by
          rw [advance_of_eq_cons behind, ← pass_append, List.cons_append]
        have split : cursor.remaining = opener :: (dollarTag rest ++ ['$']) ++ after := by
          rw [ahead, List.cons_append, List.append_assoc, List.singleton_append, ← isRest]
        have nonempty : cursor.remaining ≠ [] := ahead ▸ List.cons_ne_nil opener rest
        rw [if_pos (isTagged.mpr closes), if_pos closes, opened]
        dsimp only
        rw [slice_pass split nonempty, goOnTo_delimiter split nonempty, Part.map_some, ← ahead,
          split, List.drop_left]
      · have back : (cursor.pass (opener :: dollarTag rest)).restore cursor.mark = cursor := rfl
        rw [if_neg (mt isTagged.mp closes), if_neg closes, back, advance_of_eq_cons ahead]
        rfl

end Cursor
end SqlLexer
