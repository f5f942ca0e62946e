import SqlLexer.Proofs.Word.Tables

/-!
# Looking words up by their bytes

Entries and words compare by the bytes of their UTF-8 forms, where the bytes of small ASCII letters
in a word count as those of capitals.  The first byte of any character beyond ASCII is greater than
all bytes of an entry, so this order is the one of characters, and every search that relies on it
finds the words that the tables have.
-/

namespace SqlLexer

/-- The bytes of the UTF-8 form of a text. -/
def Text.bytes (text : Text) : List UInt8 :=
  text.flatMap String.utf8EncodeChar

namespace Word

/-! ## Bytes of characters -/

/-- The byte of a small ASCII letter as that of its capital, and any other byte as it is. -/
def upperByte (byte : UInt8) : UInt8 :=
  if 0x61 ≤ byte ∧ byte ≤ 0x7a then byte - 0x20 else byte

/-- The bytes of a character in a word. -/
def upperBytes (c : Char) : List UInt8 :=
  (String.utf8EncodeChar c).map upperByte

theorem utf8EncodeChar_of_lt {c : Char} (ascii : c.toNat < 0x80) :
    String.utf8EncodeChar c = [UInt8.ofNat c.toNat] :=
  if_pos (Nat.le_of_lt_succ ascii)

theorem upperBytes_of_lt {c : Char} (ascii : c.toNat < 0x80) :
    upperBytes c = [UInt8.ofNat c.toUpper.toNat] := by
  have eachByte : ∀ code < 0x80,
      upperByte (UInt8.ofNat code) = UInt8.ofNat (Char.ofNat code).toUpper.toNat := by
    decide
  rw [upperBytes, utf8EncodeChar_of_lt ascii, List.map_singleton, eachByte _ ascii,
    Char.ofNat_toNat]

/-- A character beyond ASCII starts with a greater byte than the characters of ASCII. -/
theorem exists_upperBytes_of_le {c : Char} (beyond : 0x80 ≤ c.toNat) :
    ∃ lead more, upperBytes c = lead :: more ∧ 0x80 ≤ lead.toNat := by
  have isKept (code : Nat) (isLead : 0xc0 ≤ code) (isByte : code < 0x100) :
      0x80 ≤ (upperByte (UInt8.ofNat code)).toNat := by
    have size : (UInt8.ofNat code).toNat = code := UInt8.toNat_ofNat_of_lt' isByte
    have notSmall : ¬(0x61 ≤ UInt8.ofNat code ∧ UInt8.ofNat code ≤ 0x7a) := by
      rw [UInt8.le_iff_toNat_le, UInt8.le_iff_toNat_le, size]
      change ¬(0x61 ≤ code ∧ code ≤ 0x7a)
      omega
    rw [upperByte, if_neg notSmall, size]
    omega
  have value : c.val.toNat = c.toNat := rfl
  rw [upperBytes, String.utf8EncodeChar]
  split_ifs with one two three
  · omega
  · exact ⟨_, _, rfl, isKept _ (by omega) (by omega)⟩
  · exact ⟨_, _, rfl, isKept _ (by omega) (by omega)⟩
  · exact ⟨_, _, rfl, isKept _ (by omega) (by omega)⟩

theorem exists_upperBytes (c : Char) : ∃ lead more, upperBytes c = lead :: more := by
  by_cases ascii : c.toNat < 0x80
  · exact ⟨_, [], upperBytes_of_lt ascii⟩
  · obtain ⟨lead, more, isLead, _⟩ := exists_upperBytes_of_le (Nat.le_of_not_lt ascii)
    exact ⟨lead, more, isLead⟩

theorem map_upperByte_cons (c : Char) (word : Text) :
    (Text.bytes (c :: word)).map upperByte = upperBytes c ++ word.bytes.map upperByte := by
  rw [Text.bytes, List.flatMap_cons, List.map_append]
  rfl

/-! ## Comparing entries with words -/

/-- How an entry compares with a word, byte by byte. -/
def compareUpper (entry word : Text) : Ordering :=
  compare entry.bytes (word.bytes.map upperByte)

theorem toNat_ofNat_of_lt {code : Nat} (ascii : code < 0x80) : (UInt8.ofNat code).toNat = code :=
  UInt8.toNat_ofNat_of_lt' (Nat.lt_trans ascii (by decide))

/-- The bytes of ASCII characters compare as the characters do. -/
theorem compare_ofNat_toNat
    {d c : Char}
    (first : d.toNat < 0x80)
    (second : c.toNat < 0x80) :
    compare (UInt8.ofNat d.toNat) (UInt8.ofNat c.toNat) = compareOfLessAndEq d c := by
  have less : UInt8.ofNat d.toNat < UInt8.ofNat c.toNat ↔ d < c := by
    rw [UInt8.lt_iff_toNat_lt, toNat_ofNat_of_lt first, toNat_ofNat_of_lt second, Char.lt_def,
      UInt32.lt_iff_toNat_lt]
    rfl
  have same : UInt8.ofNat d.toNat = UInt8.ofNat c.toNat ↔ d = c := by
    rw [← UInt8.toNat_inj, toNat_ofNat_of_lt first, toNat_ofNat_of_lt second, Char.toNat_inj]
  change compareOfLessAndEq _ _ = _
  simp only [compareOfLessAndEq, less, same]

/-- Where an entry of ASCII characters and a word both go on, their next characters compare
first. -/
theorem compareUpper_cons_cons
    {d : Char}
    (ascii : d.toNat < 0x80)
    (entry : Text)
    (c : Char)
    (word : Text) :
    compareUpper (d :: entry) (c :: word) =
      (compareOfLessAndEq d c.toUpper).then (compareUpper entry word) := by
  have entryBytes : Text.bytes (d :: entry) = UInt8.ofNat d.toNat :: entry.bytes := by
    rw [Text.bytes, List.flatMap_cons, utf8EncodeChar_of_lt ascii]
    rfl
  rw [compareUpper, entryBytes, map_upperByte_cons]
  by_cases single : c.toNat < 0x80
  · have upperSingle : c.toUpper.toNat < 0x80 := by
      have kept := apply_toUpper (fun c => decide (c.toNat < 0x80)) (by decide) c
      rwa [decide_eq_decide.mp kept]
    rw [upperBytes_of_lt single, ← compare_ofNat_toNat ascii upperSingle]
    exact List.compareLex_cons_cons
  · have beyond := Nat.le_of_not_lt single
    obtain ⟨lead, more, isLead, large⟩ := exists_upperBytes_of_le beyond
    have isLess : compare (UInt8.ofNat d.toNat) lead = .lt := by
      refine if_pos ?_
      rw [UInt8.lt_iff_toNat_lt, toNat_ofNat_of_lt ascii]
      exact Nat.lt_of_lt_of_le ascii large
    have isLessChar : compareOfLessAndEq d c.toUpper = .lt := by
      have notSmall : smallLetters.all fun c => c.toNat < 0x80 := by decide
      have same : c.toUpper = c := by
        rcases toUpper_cases c with small | same
        · exact absurd (of_decide_eq_true (List.all_eq_true.mp notSmall c small)) single
        · exact same
      rw [same]
      exact if_pos (Nat.lt_of_lt_of_le ascii beyond)
    rw [isLead, isLessChar]
    refine List.compareLex_cons_cons.trans ?_
    rw [isLess]
    rfl

/-- Texts compare by their first characters, and by the rest where those are the same. -/
theorem compareOfLessAndEq_cons (d c : Char) (first second : Text) :
    compareOfLessAndEq (d :: first) (c :: second) =
      (compareOfLessAndEq d c).then (compareOfLessAndEq first second) := by
  simp only [compareOfLessAndEq, List.cons_lt_cons_iff, List.cons.injEq]
  by_cases smaller : d < c
  · simp [smaller]
  · by_cases same : d = c <;> simp [smaller, same]

/-- An entry of ASCII characters compares with a word as its characters do with those of the word in
upper case. -/
theorem compareUpper_eq
    {entry : Text}
    (ascii : ∀ c ∈ entry, c.toNat < 0x80)
    (word : Text) :
    compareUpper entry word = compareOfLessAndEq entry (fold word) := by
  induction entry generalizing word with
  | nil =>
      cases word with
      | nil => rfl
      | cons c word =>
          obtain ⟨lead, more, isLead⟩ := exists_upperBytes c
          rw [compareUpper, map_upperByte_cons, isLead]
          rfl
  | cons d entry inductionHypothesis =>
      have asciiFirst := ascii d List.mem_cons_self
      cases word with
      | nil =>
          rw [compareUpper, Text.bytes, List.flatMap_cons, utf8EncodeChar_of_lt asciiFirst]
          rfl
      | cons c word =>
          rw [compareUpper_cons_cons asciiFirst, fold_cons, compareOfLessAndEq_cons,
            inductionHypothesis fun c inEntry => ascii c (List.mem_cons_of_mem d inEntry)]

/-! ## Searches -/

/-- A search that finds an entry which compares as equal, if there is one, wherever lesser entries
come first and greater ones last. -/
def FindsOrdered (search : (Text → Ordering) → List Text → Bool) : Prop :=
  ∀ (order : Text → Ordering) (entries : List Text),
    entries.Pairwise (fun first second =>
      order first = .lt ∨ order first = order second ∨ order second = .gt) →
    (search order entries ↔ ∃ entry ∈ entries, order entry = .eq)

/-- Looking at every entry is such a search. -/
theorem findsOrdered_any :
    FindsOrdered fun order entries => entries.any fun entry => order entry = .eq := by
  intro order entries _
  rw [List.any_eq_true]
  simp only [decide_eq_true_eq]

namespace AreEntries

variable {spellings : List String} {entry : Text}

theorem toNat_lt
    (entries : AreEntries spellings)
    (listed : entry ∈ spellings.map String.toList) :
    ∀ c ∈ entry, c.toNat < 0x80 := by
  intro c inEntry
  have plain := List.all_eq_true.mp (entries.plain entry listed).2 c inEntry
  simp only [isEntryChar, isDigit, Bool.or_eq_true, Bool.and_eq_true, decide_eq_true_eq] at plain
  rcases plain with (⟨_, capital⟩ | ⟨_, digit⟩) | rfl
  · exact Nat.lt_of_le_of_lt capital (by decide)
  · exact Nat.lt_of_le_of_lt digit (by decide)
  · decide

/-- An entry compares as equal with the words that it spells in upper case. -/
theorem compareUpper_eq_eq_iff
    (entries : AreEntries spellings)
    (listed : entry ∈ spellings.map String.toList)
    (word : Text) :
    compareUpper entry word = .eq ↔ entry = fold word := by
  rw [compareUpper_eq (entries.toNat_lt listed), compareOfLessAndEq]
  by_cases less : entry < fold word
  · have different : entry ≠ fold word := by
      intro same
      rw [same] at less
      exact List.lt_irrefl _ less
    simp [less, different]
  · by_cases same : entry = fold word <;> simp [less, same]

/-- The entries of a table that are less than a word come first, and those that are greater last. -/
theorem pairwise_compareUpper (entries : AreEntries spellings) (word : Text) :
    (spellings.map String.toList).Pairwise fun first second =>
      compareUpper first word = .lt ∨ compareUpper first word = compareUpper second word ∨
        compareUpper second word = .gt := by
  refine (List.isChain_iff_pairwise.mp entries.ascending).imp_of_mem ?_
  intro first second isFirst isSecond ascends
  rw [compareUpper_eq (entries.toNat_lt isFirst), compareUpper_eq (entries.toNat_lt isSecond)]
  by_cases less : first < fold word
  · exact .inl (if_pos less)
  · refine .inr (.inr ?_)
    have notLess : ¬second < fold word := fun lessSecond =>
      less (List.lt_trans ascends lessSecond)
    have different : second ≠ fold word := by
      rintro rfl
      exact less ascends
    rw [compareOfLessAndEq, if_neg notLess, if_neg different]

/-- A search by bytes finds the words that the table has, and the empty word is none of them. -/
theorem search_eq_contains
    {search : (Text → Ordering) → List Text → Bool}
    (entries : AreEntries spellings)
    (finds : FindsOrdered search)
    (word : Text) :
    (!word.isEmpty && search (fun entry => compareUpper entry word) (spellings.map String.toList)) =
      (Table.ofSpellings spellings).contains word := by
  rw [Bool.eq_iff_iff, Bool.and_eq_true, finds _ _ (entries.pairwise_compareUpper word),
    Table.contains_ofSpellings_iff entries.ascending]
  constructor
  · rintro ⟨_, entry, listed, same⟩
    rw [entries.compareUpper_eq_eq_iff listed] at same
    obtain ⟨spelling, isSpelling, rfl⟩ := List.mem_map.mp listed
    exact ⟨spelling, isSpelling, same⟩
  · rintro ⟨spelling, isSpelling, same⟩
    have listed : spelling.toList ∈ spellings.map String.toList := List.mem_map_of_mem isSpelling
    refine ⟨?_, _, listed, (entries.compareUpper_eq_eq_iff listed word).mpr same⟩
    cases word with
    | nil => exact absurd same (entries.plain _ listed).1
    | cons c word => rfl

end AreEntries

/-- Every search of the tables by the bytes of their entries finds the keywords and the names of
types. -/
theorem isKeyword_isDataType_eq_search
    {search : (Text → Ordering) → List Text → Bool}
    (finds : FindsOrdered search)
    (word : Text) :
    isKeyword word =
        (!word.isEmpty &&
          search (fun entry => compareUpper entry word) (keywordSpellings.map String.toList)) ∧
      isDataType word =
        (!word.isEmpty &&
          search (fun entry => compareUpper entry word) (dataTypeSpellings.map String.toList)) :=
  ⟨(areEntries_keywordSpellings.search_eq_contains finds word).symm,
    (areEntries_dataTypeSpellings.search_eq_contains finds word).symm⟩

end Word
end SqlLexer
