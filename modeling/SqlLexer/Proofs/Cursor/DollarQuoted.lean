import SqlLexer.Proofs.Cursor.Remaining
import SqlLexer.Proofs.Lexeme.Delimiter

/-!
# Dollar-quoted strings read by a cursor

A dollar-quoted string ends with the first occurrence of its delimiter behind the opening one, or
with the text where there is none.  A dollar that opens no delimiter is read by itself.
-/

namespace SqlLexer
namespace Lexeme

/-- The delimiter that a tag makes. -/
def tagged (tag : Text) : Text :=
  '$' :: (tag ++ ['$'])

variable {tag text : Text}

/-- At most one delimiter lies at the head of a text. -/
theorem Tag.eq_of_isPrefix
    {other : Text}
    (isTag : Tag tag)
    (isOther : Tag other)
    (here : tagged tag <+: text)
    (alsoHere : tagged other <+: text) :
    tag = other := by
  have found := (dollarDelimiter?_eq_some_iff _ _).mpr ⟨.tagged '$' isTag, here⟩
  have alsoFound := (dollarDelimiter?_eq_some_iff _ _).mpr ⟨.tagged '$' isOther, alsoHere⟩
  have same : tagged tag = tagged other := Option.some.inj (found.symm.trans alsoFound)
  exact List.append_cancel_right (List.cons.inj same).2

/-- Behind a tag between dollars, a string goes on through the next occurrence of both. -/
theorem Tag.dollarQuotedString_eq
    (isTag : Tag tag)
    (text : Text) :
    dollarQuotedString (tagged tag ++ text) =
      ⟨.dollarQuotedString, tagged tag ++ Text.throughFirst (tagged tag) text⟩ := by
  have found : dollarDelimiter? (tagged tag ++ text) = some (tagged tag) :=
    (dollarDelimiter?_eq_some_iff _ _).mpr ⟨.tagged '$' isTag, List.prefix_append _ _⟩
  rw [dollarQuotedString, found]
  dsimp only
  rw [List.drop_left]

/-- A dollar at the head of a text without a delimiter is an operator. -/
theorem dollarQuotedString_of_not_tagged
    {rest : Text}
    (none : ∀ tag, Tag tag → ¬tagged tag <+: '$' :: rest) :
    dollarQuotedString ('$' :: rest) = ⟨.operator, ['$']⟩ := by
  refine dollarQuotedString_of_none (Option.eq_none_iff_forall_ne_some.mpr ?_)
  intro delimiter found
  obtain ⟨isDelimiter, here⟩ := (dollarDelimiter?_eq_some_iff _ _).mp found
  cases isDelimiter with
  | @tagged tag opener isTag =>
      obtain ⟨rfl, _⟩ := List.cons_prefix_cons.mp here
      exact none tag isTag here

end Lexeme

namespace Cursor

open Lexeme (Tag tagged)

/-- How a cursor reads a text that starts with a dollar. -/
structure ReadsDollarQuoted (cursor : Cursor) : Prop where
  /-- At most one delimiter lies at the head of what remains. -/
  unique : ∀ first second, Tag first → Tag second →
    tagged first <+: cursor.remaining → tagged second <+: cursor.remaining → first = second
  /-- A string reaches through the first occurrence of its delimiter behind the opening one, or
  to the end where there is none. -/
  string : ∀ tag text, Tag tag → cursor.remaining = tagged tag ++ text →
    (∃ body rest, Text.IsCutAtFirst (tagged tag) text body rest ∧
      cursor.Reads .dollarQuotedString
        ⟨.dollarQuotedString, tagged tag ++ (body ++ tagged tag)⟩ rest) ∨
    ¬tagged tag <:+: text ∧
      cursor.Reads .dollarQuotedString ⟨.dollarQuotedString, cursor.remaining⟩ []
  /-- Without a delimiter the dollar is read, which is one byte and one column. -/
  stray : (∀ tag, Tag tag → ¬tagged tag <+: cursor.remaining) →
    cursor.Reads .dollarQuotedString ⟨.operator, ['$']⟩ (cursor.remaining.drop 1) ∧
      (cursor.read .dollarQuotedString).2 =
        ⟨cursor.source, cursor.offset + 1, ⟨cursor.location.line, cursor.location.column + 1⟩⟩
  /-- A body that its delimiter first ends is read as a whole, whatever is behind it. -/
  body : ∀ tag body rest, Tag tag → Text.IsCutAtFirst (tagged tag) (body ++ tagged tag) body [] →
    cursor.remaining = tagged tag ++ (body ++ (tagged tag ++ rest)) →
      cursor.Reads .dollarQuotedString
        ⟨.dollarQuotedString, tagged tag ++ (body ++ tagged tag)⟩ rest

/-- A string of a cursor is read through the first occurrence of its delimiter. -/
theorem reads_of_isCutAtFirst
    {cursor : Cursor}
    {tag text body rest : Text}
    (isTag : Tag tag)
    (ahead : cursor.remaining = tagged tag ++ text)
    (cut : Text.IsCutAtFirst (tagged tag) text body rest) :
    cursor.Reads .dollarQuotedString
      ⟨.dollarQuotedString, tagged tag ++ (body ++ tagged tag)⟩ rest := by
  apply reads_of_eq
  · simp [ahead, cut.split]
  · rw [ahead, ← cut.throughFirst_eq]
    exact isTag.dollarQuotedString_eq text

/-- Where a dollar lies ahead, a cursor reads the string that the dollar opens, or else the dollar
alone. -/
theorem readsDollarQuoted_of_startsWith
    {cursor : Cursor}
    (dollar : cursor.startsWith ['$']) :
    cursor.ReadsDollarQuoted where
  unique := fun _ _ isFirst isSecond => isFirst.eq_of_isPrefix isSecond
  string := by
    intro tag text isTag ahead
    rcases Text.isCutAtFirst_or_throughFirst_eq (tagged tag) text with
      ⟨body, rest, cut⟩ | ⟨absent, whole⟩
    · exact .inl ⟨body, rest, cut, reads_of_isCutAtFirst isTag ahead cut⟩
    · refine .inr ⟨absent, reads_of_eq (List.append_nil _).symm ?_⟩
      rw [ahead, Lexeme.Form.read, isTag.dollarQuotedString_eq, whole]
  stray := by
    intro none
    obtain ⟨rest, ahead⟩ := List.isPrefixOf_iff_prefix.mp dollar
    rw [← ahead] at none
    have reads : cursor.Reads .dollarQuotedString ⟨.operator, ['$']⟩ rest :=
      reads_of_eq ahead.symm (ahead ▸ Lexeme.dollarQuotedString_of_not_tagged none)
    rw [reads.read_eq, ← ahead]
    exact ⟨reads, rfl⟩
  body := by
    intro tag body rest isTag cut ahead
    exact reads_of_isCutAtFirst isTag ahead (cut.replace rest)

/-- A body with parts of its delimiter, the last of which shares a dollar with the end. -/
theorem readsDollarQuoted_of_startsWith_overlaps :
    (start "$é1$ $é$$é1 $1$é$é1$é1$;$é1$".toList).startsWith ['$'] ∧
      (start "$é1$ $é$$é1 $1$é$é1$é1$;$é1$".toList).ReadsDollarQuoted := by
  have dollar : (start "$é1$ $é$$é1 $1$é$é1$é1$;$é1$".toList).startsWith ['$'] := by decide
  exact ⟨dollar, readsDollarQuoted_of_startsWith dollar⟩

end Cursor
end SqlLexer
