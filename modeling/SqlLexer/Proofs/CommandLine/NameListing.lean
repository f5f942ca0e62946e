import Mathlib.Data.List.Basic
import SqlLexer.Proofs.CommandLine.Listing
import SqlLexer.Proofs.Name.Declarations

/-!
# Listings of names

A listing gives every declared name an entry that a line feed ends.  Names are printed as they
are, and so the entry of a name with line feeds takes up more lines than one.
-/

namespace SqlLexer

open Declarations

/-! ## The kinds of objects -/

theorem Declarations.object_of_mem_targetAt
    {object : Text}
    {tokens : List Token}
    {declared : DeclaredName}
    (found : (targetAt object tokens).1 = some declared) :
    declared.object = object := by
  unfold targetAt at found
  dsimp only at found
  split at found
  · cases found
    rfl
  · cases found

/-- Only objects of the list are declared. -/
theorem Declarations.object_of_mem_objectAt
    {tokens : List Token}
    {declared : DeclaredName}
    (found : (objectAt tokens).1 = some declared) :
    declared.object ∈ DeclaredName.objectKeywords := by
  unfold objectAt at found
  split at found
  · cases found
  · split at found
    · rename_i object isObject
      rw [object_of_mem_targetAt found]
      exact List.mem_of_find?_eq_some isObject
    · cases found

/-- Only objects of the kinds that are reported are declared. -/
theorem object_mem_objectKeywords
    {tokens : List Token}
    {declared : DeclaredName}
    (member : declared ∈ declarations tokens) :
    declared.object ∈ DeclaredName.objectKeywords := by
  fun_induction declarations tokens with
  | case1 => exact absurd member List.not_mem_nil
  | case2 token rest _ inductionHypothesis =>
      rcases List.mem_append.mp member with isFirst | later
      · exact object_of_mem_objectAt (Option.mem_toList.mp isFirst)
      · exact inductionHypothesis later
  | case3 token rest _ inductionHypothesis => exact inductionHypothesis member

namespace CommandLine

/-- The line of a declared name, as long as the name is on one line. -/
def nameEntry (declared : DeclaredName) : Text :=
  locationEntry declared.location ++ ' ' :: declared.object ++ ' ' :: declared.name.render

theorem nameLine_eq (declared : DeclaredName) :
    nameLine declared = nameEntry declared ++ ['\n'] :=
  rfl

/-- Only the name itself can break the line of an entry. -/
theorem count_nameEntry
    {declared : DeclaredName}
    (reported : declared.object ∈ DeclaredName.objectKeywords) :
    (nameEntry declared).count '\n' = declared.name.render.count '\n' := by
  have noFeed : ∀ word ∈ DeclaredName.objectKeywords, '\n' ∉ word := by decide
  have place := List.count_eq_zero_of_not_mem
    (not_mem_locationEntry (c := '\n') (by decide) (by decide) declared.location)
  have object := List.count_eq_zero_of_not_mem (noFeed declared.object reported)
  simp [nameEntry, place, object]

/-- A listing of names has a line feed for every name and for every line feed in a name. -/
theorem count_listNames
    {names : List DeclaredName}
    (reported : ∀ declared ∈ names, declared.object ∈ DeclaredName.objectKeywords) :
    (listNames false names).count '\n' =
      names.length + (names.flatMap fun declared => declared.name.render).count '\n' := by
  change (names.flatMap nameLine).count '\n' = _
  induction names with
  | nil => rfl
  | cons declared rest inductionHypothesis =>
      rw [List.forall_mem_cons] at reported
      rw [List.flatMap_cons, List.flatMap_cons, List.count_append, List.count_append,
        inductionHypothesis reported.2, nameLine_eq, List.count_append,
        count_nameEntry reported.1, List.length_cons, List.count_singleton_self]
      omega

/-- Every name has one line of its own, namely its entry, unless some name has a line feed. -/
theorem lines_listNames_eq_iff
    {names : List DeclaredName}
    {lines : List Text}
    (reported : ∀ declared ∈ names, declared.object ∈ DeclaredName.objectKeywords)
    (hasLines : (listNames false names).HasLines lines) :
    lines = names.map nameEntry ↔ ∀ declared ∈ names, '\n' ∉ declared.name.render := by
  have broken : ∀ declared ∈ names,
      ('\n' ∈ nameEntry declared ↔ '\n' ∈ declared.name.render) := by
    intro declared member
    rw [← List.count_pos_iff, ← List.count_pos_iff, count_nameEntry (reported declared member)]
  constructor
  · rintro rfl declared member inName
    have unbroken := hasLines.unbroken _ (List.mem_map_of_mem member)
    exact unbroken ((broken declared member).mpr inName)
  · intro unbroken
    refine hasLines.unique (Text.HasLines.flatMap fun declared member inEntry => ?_)
    exact unbroken declared member ((broken declared member).mp inEntry)

/-- The plain listing of the names in an accepted file.  It has a line for every name and one more
for every line feed in a name, and so its lines are the entries of the names only if the names
are free of line feeds. -/
theorem run_names_hasLines
    {contentOf : Text → Except FileError ByteArray}
    {arguments : List Text}
    {file content : Text}
    (asked : Request.ofArguments arguments = .ok (.run (.names false) [file]))
    (stored : contentOf file = .ok content.utf8Encode)
    (solid : ∃ c ∈ content, c ∉ [' ', '\t', '\r', '\n']) :
    ∃ names listing lines,
      declaredNamesOfSource content = .ok names ∧
      run contentOf arguments = .ok ⟨0, listing, []⟩ ∧
      listing.HasLines lines ∧
      lines.length =
        names.length + (names.flatMap fun declared => declared.name.render).count '\n' ∧
      (lines = names.map nameEntry ↔ ∀ declared ∈ names, '\n' ∉ declared.name.render) := by
  have accepted := exists_solid solid
  let stream := TokenStream.ofTokens content (tokensOf content)
  have reported : ∀ declared ∈ (declaredNames stream).1,
      declared.object ∈ DeclaredName.objectKeywords := by
    intro declared member
    rw [declaredNames_eq_declarations] at member
    exact object_mem_objectKeywords member
  obtain ⟨lines, hasLines⟩ := Text.exists_hasLines_flatMap (declaredNames stream).1 nameEntry
  refine ⟨(declaredNames stream).1, listNames false (declaredNames stream).1, lines, ?_,
    run_of_accepted asked stored solid, hasLines, ?_, lines_listNames_eq_iff reported hasLines⟩
  · exact (declaredNamesOfSource_eq_ok_iff _ _).mpr ⟨accepted, rfl⟩
  · rw [hasLines.length_eq]
    exact count_listNames reported

/-- A file with a table whose name has a line feed, and no other file. -/
def brokenName (name : Text) : Except FileError ByteArray :=
  if name = "a.sql".toList then .ok "CREATE VIEW v;CREATE TABLE \"a\nb\"".toUTF8
  else .error .missing

theorem brokenName_eq :
    brokenName "a.sql".toList =
      .ok "CREATE VIEW v;CREATE TABLE \"a\nb\"".toList.utf8Encode := by
  rw [String.utf8Encode_toList]
  rfl

/-- Two names on three lines. -/
theorem run_names_hasLines_brokenName :
    ∃ names listing lines,
      declaredNamesOfSource "CREATE VIEW v;CREATE TABLE \"a\nb\"".toList = .ok names ∧
      run brokenName ["names".toList, "a.sql".toList] = .ok ⟨0, listing, []⟩ ∧
      listing.HasLines lines ∧
      lines.length =
        names.length + (names.flatMap fun declared => declared.name.render).count '\n' ∧
      (lines = names.map nameEntry ↔ ∀ declared ∈ names, '\n' ∉ declared.name.render) :=
  run_names_hasLines rfl brokenName_eq ⟨'C', by decide, by decide⟩

/-- The plain listing of names does not always have one line for each name. -/
theorem not_run_names_hasLines_nameEntry :
    ¬∀ (contentOf : Text → Except FileError ByteArray) (arguments : List Text)
        (file content : Text),
        Request.ofArguments arguments = .ok (.run (.names false) [file]) →
        contentOf file = .ok content.utf8Encode →
        (∃ c ∈ content, c ∉ [' ', '\t', '\r', '\n']) →
        ∃ names listing,
          declaredNamesOfSource content = .ok names ∧
          run contentOf arguments = .ok ⟨0, listing, []⟩ ∧
          listing.HasLines (names.map nameEntry) := by
  intro oneLineEach
  obtain ⟨names, listing, declared, _, hasLines⟩ :=
    oneLineEach brokenName ["names".toList, "a.sql".toList] "a.sql".toList
      "CREATE VIEW v;CREATE TABLE \"a\nb\"".toList rfl brokenName_eq ⟨'C', by decide, by decide⟩
  have both : declaredNamesOfSource "CREATE VIEW v;CREATE TABLE \"a\nb\"".toList =
      .ok [⟨"VIEW".toList, ⟨none, "v".toList⟩, false, ⟨1, 13⟩⟩,
        ⟨"TABLE".toList, ⟨none, "a\nb".toList⟩, false, ⟨1, 28⟩⟩] := by
    decide +kernel
  rw [both] at declared
  cases declared
  exact hasLines.unbroken _ (List.mem_cons_of_mem _ List.mem_cons_self) (by decide)

end CommandLine
end SqlLexer
