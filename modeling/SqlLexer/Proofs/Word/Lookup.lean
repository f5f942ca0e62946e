import SqlLexer.Proofs.Lexeme.Edge
import SqlLexer.Proofs.Surroundings
import SqlLexer.Proofs.Word.Bytes

/-!
# Looking words up

The tables have the words that their entries spell, whether a search halves them by the characters
of a word or finds its way by the bytes.  A word of a source is a keyword or an identifier
accordingly.
-/

namespace SqlLexer

/-- A token that begins like a word is a word, of the kind that the table of keywords gives it. -/
theorem kind_of_isIdentifierStart
    {source : Text}
    {token : Token}
    {c : Char}
    (member : token ∈ tokensOf source)
    (isHead : c ∈ token.text.head?)
    (letter : isIdentifierStart c) :
    token.kind = if Word.isKeyword token.text then .keyword else .identifier := by
  obtain ⟨before, after, _, between⟩ := exists_isBetween_of_mem_tokensOf member
  rcases between.first with first | ⟨isMark, _⟩
  · obtain ⟨rest, text⟩ := List.head?_eq_some_iff.mp isHead
    rw [text] at first
    have isWord : token.lexeme = Lexeme.word (c :: rest ++ after) :=
      first.unique (.word letter)
    have spelling : token.text = (c :: rest ++ after).takeWhile isIdentifierPart :=
      congrArg Lexeme.text isWord
    rw [spelling]
    exact congrArg Lexeme.kind isWord
  · have isEmpty : token.text = [] := congrArg Lexeme.text isMark
    rw [isEmpty] at isHead
    exact absurd isHead (Option.not_mem_none c)

/-- The tables have exactly the words that one of their entries spells in upper case, every search
by bytes that relies on the order of the entries finds these words, and a token that begins like a
word is a keyword if an entry spells it in either case, and else an identifier. -/
theorem isKeyword_isDataType_kind_exact :
    (∀ word : Text,
      Word.isKeyword word ↔
        ∃ spelling ∈ Word.keywordSpellings, spelling.toList = Word.fold word) ∧
    (∀ word : Text,
      Word.isDataType word ↔
        ∃ spelling ∈ Word.dataTypeSpellings, spelling.toList = Word.fold word) ∧
    (∀ search : (Text → Ordering) → List Text → Bool, Word.FindsOrdered search →
      ∀ word : Text,
        Word.isKeyword word =
            (!word.isEmpty &&
              search (fun entry => Word.compareUpper entry word)
                (Word.keywordSpellings.map String.toList)) ∧
          Word.isDataType word =
            (!word.isEmpty &&
              search (fun entry => Word.compareUpper entry word)
                (Word.dataTypeSpellings.map String.toList))) ∧
    ∀ (source : Text) (tokens : List Token), tokenize source = .ok tokens →
      ∀ token ∈ tokens, ∀ c ∈ token.text.head?, isIdentifierStart c →
        token.kind = .keyword ∧
            (∃ spelling ∈ Word.keywordSpellings,
              Word.fold spelling.toList = Word.fold token.text) ∨
          token.kind = .identifier ∧
            ¬∃ spelling ∈ Word.keywordSpellings,
              Word.fold spelling.toList = Word.fold token.text := by
  refine ⟨Word.isKeyword_iff, Word.isDataType_iff, ?_, ?_⟩
  · exact fun search finds word => Word.isKeyword_isDataType_eq_search finds word
  intro source tokens accepted token member c isHead letter
  obtain ⟨_, rfl⟩ := (tokenize_eq_ok_iff source tokens).mp accepted
  have kind := kind_of_isIdentifierStart member isHead letter
  rw [← Word.isKeyword_iff_fold_eq]
  by_cases isKeyword : Word.isKeyword token.text
  · rw [if_pos isKeyword] at kind
    exact .inl ⟨kind, isKeyword⟩
  · rw [if_neg isKeyword] at kind
    exact .inr ⟨kind, isKeyword⟩

/-- A keyword with an underscore in mixed case, which is found by its bytes too, and a word that
only the upper case of a long s would turn into one. -/
theorem isKeyword_isDataType_kind_exact_longS :
    ∃ tokens, tokenize "Session_uSer,ſet".toList = .ok tokens ∧
      ⟨.keyword, ⟨0, 12⟩, ⟨1, 1⟩, "Session_uSer".toList⟩ ∈ tokens ∧
      ⟨.identifier, ⟨13, 4⟩, ⟨1, 14⟩, "ſet".toList⟩ ∈ tokens ∧
      isIdentifierStart 'S' ∧ isIdentifierStart 'ſ' ∧
      (∃ spelling ∈ Word.keywordSpellings,
        Word.fold spelling.toList = Word.fold "Session_uSer".toList) ∧
      (¬∃ spelling ∈ Word.keywordSpellings,
        Word.fold spelling.toList = Word.fold "ſet".toList) ∧
      (Word.FindsOrdered fun order entries => entries.any fun entry => order entry = .eq) ∧
      (Word.keywordSpellings.map String.toList).any fun entry =>
        Word.compareUpper entry "Session_uSer".toList = .eq := by
  have accepted : tokenize "Session_uSer,ſet".toList = .ok
      [⟨.keyword, ⟨0, 12⟩, ⟨1, 1⟩, "Session_uSer".toList⟩, ⟨.comma, ⟨12, 1⟩, ⟨1, 13⟩, [',']⟩,
        ⟨.identifier, ⟨13, 4⟩, ⟨1, 14⟩, "ſet".toList⟩, ⟨.endOfFile, ⟨17, 0⟩, ⟨1, 17⟩, []⟩] := by
    decide +kernel
  have capital : isIdentifierStart 'S' := by decide
  have longS : isIdentifierStart 'ſ' := by decide
  have listed : Word.isKeyword "Session_uSer".toList := by decide +kernel
  have exact := isKeyword_isDataType_kind_exact.2.2.2 _ _ accepted
  have search := isKeyword_isDataType_kind_exact.2.2.1 _ Word.findsOrdered_any
  have found := (search "Session_uSer".toList).1.symm.trans listed
  have first := exact _ List.mem_cons_self 'S' rfl capital
  have third := exact _ (List.mem_cons_of_mem _ (List.mem_cons_of_mem _ List.mem_cons_self)) 'ſ'
    rfl longS
  refine ⟨_, accepted, by simp, by simp, capital, longS, ?_, ?_, Word.findsOrdered_any, ?_⟩
  · exact (first.resolve_right fun other => absurd other.1 (by decide)).2
  · exact (third.resolve_left fun other => absurd other.1 (by decide)).2
  · exact (Bool.and_eq_true_iff.mp found).2

end SqlLexer
