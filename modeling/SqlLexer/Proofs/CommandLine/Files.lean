import SqlLexer.CommandLine.Run
import SqlLexer.Proofs.CommandLine.Arguments
import SqlLexer.Proofs.Name.Statement

/-!
# Files of a run

What is wrong with a file does not depend on the command.  A run on several files leaves behind
what the runs on each of them leave behind, one after the other, and its exit code tells whether
something was wrong with one of them.
-/

namespace SqlLexer
namespace CommandLine

/-- The files that can be read, are in UTF-8 and have a character other than space, tab, carriage
return and line feed. -/
def IsUsable (file : Except FileError ByteArray) : Prop :=
  ∃ content : Text, file = .ok content.utf8Encode ∧
    ∃ c ∈ content, c ∉ [' ', '\t', '\r', '\n']

/-- The files that no command accepts, and what is wrong with each. -/
inductive FailsWith : Except FileError ByteArray → Text → Prop
  | unread (error : FileError) : FailsWith (.error error) error.message
  | undecoded {bytes : ByteArray}
      (invalid : ∀ content : Text, bytes ≠ content.utf8Encode) :
      FailsWith (.ok bytes) FileError.notUnicode.message
  | empty : FailsWith (.ok (List.utf8Encode [])) SourceError.empty.message
  | blank {content : Text}
      (nonempty : content ≠ [])
      (blank : ∀ c ∈ content, c ∈ [' ', '\t', '\r', '\n']) :
      FailsWith (.ok content.utf8Encode) SourceError.blank.message

theorem fromUTF8?_eq_some_iff (bytes : ByteArray) (content : String) :
    String.fromUTF8? bytes = some content ↔ bytes = content.toByteArray := by
  rw [String.fromUTF8?]
  split
  next valid =>
    rw [Option.some.injEq, ← String.toByteArray_inj]
    exact Iff.rfl
  next invalid =>
    constructor
    · intro decoded
      cases decoded
    · rintro rfl
      exact absurd content.isValidUTF8 invalid

/-- Bytes are decoded to the text that they encode. -/
theorem decode_eq_ok_iff (bytes : ByteArray) (content : Text) :
    decode bytes = .ok content ↔ bytes = content.utf8Encode := by
  have encodes := fromUTF8?_eq_some_iff bytes (String.ofList content)
  rw [String.toByteArray_ofList] at encodes
  rw [← encodes, decode]
  cases String.fromUTF8? bytes with
  | none => simp
  | some decoded =>
      rw [Except.ok.injEq, Option.some.injEq, ← String.toList_inj, String.toList_ofList]

theorem decode_of_invalid
    {bytes : ByteArray}
    (invalid : ∀ content : Text, bytes ≠ content.utf8Encode) :
    decode bytes = .error .notUnicode := by
  cases decoded : String.fromUTF8? bytes with
  | none => rw [decode, decoded]
  | some content =>
      have encodes := (fromUTF8?_eq_some_iff bytes content).mp decoded
      rw [← String.utf8Encode_toList] at encodes
      exact absurd encodes (invalid content.toList)

/-- A file that is not usable fails for one of the four reasons. -/
theorem isUsable_or_failsWith (file : Except FileError ByteArray) :
    IsUsable file ∨ ∃ text, FailsWith file text := by
  cases file with
  | error error => exact .inr ⟨_, .unread error⟩
  | ok bytes =>
      by_cases encodes : ∃ content : Text, bytes = content.utf8Encode
      · obtain ⟨content, rfl⟩ := encodes
        by_cases solid : ∃ c ∈ content, c ∉ [' ', '\t', '\r', '\n']
        · exact .inl ⟨content, rfl, solid⟩
        · cases content with
          | nil => exact .inr ⟨_, .empty⟩
          | cons c rest =>
              refine .inr ⟨_, .blank (List.cons_ne_nil c rest) fun d member => ?_⟩
              exact Decidable.of_not_not fun notSpace => solid ⟨d, member, notSpace⟩
      · exact .inr ⟨_, .undecoded fun content same => encodes ⟨content, same⟩⟩

theorem exists_solid
    {content : Text}
    (solid : ∃ c ∈ content, c ∉ [' ', '\t', '\r', '\n']) :
    ∃ c ∈ content, isWhitespace c = false := by
  obtain ⟨c, member, notSpace⟩ := solid
  refine ⟨c, member, ?_⟩
  rw [Bool.eq_false_iff, Ne, isWhitespace_iff]
  simpa using notSpace

theorem checkSource_of_blank
    {content : Text}
    (nonempty : content ≠ [])
    (blank : ∀ c ∈ content, c ∈ [' ', '\t', '\r', '\n']) :
    checkSource content = .error .blank := by
  have allSpace : content.all isWhitespace = true := by
    rw [List.all_eq_true]
    intro c member
    rw [isWhitespace_iff]
    simpa using blank c member
  rw [checkSource, if_neg (by simpa using nonempty), if_pos allSpace]

namespace Command

/-- Every command reports a refused text by the message about it. -/
theorem output_of_refused
    (command : Command)
    (name : Text)
    {content : Text}
    {error : SourceError}
    (refused : checkSource content = .error error) :
    command.output name content = .error error.message := by
  have noTokens : tokenize content = .error error := by
    rw [tokenize, refused]
    rfl
  have noNames : declaredNamesOfSource content = .error error := by
    rw [declaredNamesOfSource, TokenStream.ofSource, noTokens]
    rfl
  cases command with
  | tokens all json => simp only [output, noTokens]
  | check => simp only [output, noTokens]
  | names json => simp only [output, noNames]

/-- What a command prints about the content of a file that is accepted. -/
def printed (command : Command) (name : Text) (content : Text) : Text :=
  match command with
  | .tokens all json => listTokens all json (tokensOf content)
  | .check =>
      name ++ ": ok (".toList ++ Text.decimal (tokensOf content).length ++ " tokens)\n".toList
  | .names json => listNames json (declaredNames (.ofTokens content (tokensOf content))).1

/-- No command fails on a content that is accepted, as its tokens spell it out. -/
theorem output_of_accepted
    (command : Command)
    (name : Text)
    {content : Text}
    (solid : ∃ c ∈ content, isWhitespace c = false) :
    command.output name content = .ok (command.printed name content) := by
  have found : tokenize content = .ok (tokensOf content) :=
    (tokenize_eq_ok_iff _ _).mpr ⟨solid, rfl⟩
  have names : declaredNamesOfSource content =
      .ok (declaredNames (.ofTokens content (tokensOf content))).1 :=
    (declaredNamesOfSource_eq_ok_iff _ _).mpr ⟨solid, rfl⟩
  have spelt : Token.concatText (tokensOf content) = content := by
    rw [Token.concatText_eq, contents_tokensOf, concatText_lexemes]
  cases command with
  | tokens all json => simp only [output, found, printed]
  | check => simp only [output, found, printed, if_pos spelt]
  | names json => simp only [output, names, printed]

/-- The report on an accepted file is what the command prints about its content. -/
theorem report_of_accepted
    (command : Command)
    (name : Text)
    {content : Text}
    (solid : ∃ c ∈ content, c ∉ [' ', '\t', '\r', '\n']) :
    command.report name (.ok content.utf8Encode) = ⟨command.printed name content, [], false⟩ := by
  have decoded : decode content.utf8Encode = .ok content := (decode_eq_ok_iff _ _).mpr rfl
  have output := command.output_of_accepted name (exists_solid solid)
  simp only [report, Except.bind, decoded, output]

theorem report_of_isUsable
    (command : Command)
    (name : Text)
    {file : Except FileError ByteArray}
    (usable : IsUsable file) :
    ∃ printed, command.report name file = ⟨printed, [], false⟩ := by
  obtain ⟨content, rfl, solid⟩ := usable
  exact ⟨command.printed name content, command.report_of_accepted name solid⟩

/-- What is wrong with a file is all that any command says about it. -/
theorem report_of_failsWith
    (command : Command)
    (name : Text)
    {file : Except FileError ByteArray}
    {text : Text}
    (fails : FailsWith file text) :
    command.report name file = ⟨[], name ++ ": ".toList ++ text ++ ['\n'], true⟩ := by
  have decoded (content : Text) : decode content.utf8Encode = .ok content :=
    (decode_eq_ok_iff _ _).mpr rfl
  cases fails with
  | unread error => rfl
  | undecoded invalid => simp only [report, Except.bind, decode_of_invalid invalid]
  | empty =>
      have output := command.output_of_refused name (rfl : checkSource [] = .error .empty)
      simp only [report, Except.bind, decoded, output]
  | blank nonempty blank =>
      have output := command.output_of_refused name (checkSource_of_blank nonempty blank)
      simp only [report, Except.bind, decoded, output]

/-- A file fails unless it is usable, whatever the command. -/
theorem failed_report_iff
    (command : Command)
    (name : Text)
    (file : Except FileError ByteArray) :
    (command.report name file).failed ↔ ¬ IsUsable file := by
  constructor
  · intro failed usable
    obtain ⟨printed, reportEq⟩ := command.report_of_isUsable name usable
    rw [reportEq] at failed
    cases failed
  · intro unusable
    obtain ⟨text, fails⟩ := (isUsable_or_failsWith file).resolve_left unusable
    rw [command.report_of_failsWith name fails]

/-- The tokens of a text never fail to reproduce it. -/
theorem output_check_ne (name content : Text) :
    Command.check.output name content ≠ .error "tokens do not reproduce the source".toList := by
  intro failed
  cases checked : checkSource content with
  | ok _ =>
      rw [output_of_accepted _ name ((checkSource_eq_ok_iff content).mp checked)] at failed
      cases failed
  | error error =>
      rw [output_of_refused _ name checked, Except.error.injEq] at failed
      have sameHead := congrArg List.head? failed
      cases error <;> exact absurd sameHead (by decide)

end Command

/-- What a run on one file leaves behind. -/
structure Outcome.IsOfFile
    (outcome : Outcome)
    (name : Text)
    (file : Except FileError ByteArray) : Prop where
  usable : IsUsable file → outcome.code = 0 ∧ outcome.stderr = []
  /-- A file that fails leaves behind one message, its name in front, and nothing else. -/
  unusable : ¬ IsUsable file → outcome.code = 1 ∧ outcome.stdout = [] ∧
    ∃ text, FailsWith file text ∧ outcome.stderr = name ++ ": ".toList ++ text ++ ['\n']

/-- What a run on several files leaves behind, put together from the runs on each of them. -/
structure Outcome.IsJoined
    (outcome : Outcome)
    (contentOf : Text → Except FileError ByteArray)
    (files : List Text)
    (alone : Text → Outcome) : Prop where
  stdout_eq : outcome.stdout = files.flatMap fun file => (alone file).stdout
  stderr_eq : outcome.stderr = files.flatMap fun file => (alone file).stderr
  code_eq_zero_iff : outcome.code = 0 ↔ ∀ file ∈ files, IsUsable (contentOf file)
  code_eq_one_iff : outcome.code = 1 ↔ ∃ file ∈ files, ¬ IsUsable (contentOf file)
  isOfFile : ∀ file ∈ files, (alone file).IsOfFile file (contentOf file)

namespace Command

variable (command : Command) (contentOf : Text → Except FileError ByteArray)

/-- A run on one file leaves behind the report on the file. -/
theorem run_singleton (file : Text) :
    let report := command.report file (contentOf file)
    command.run contentOf [file] =
      ⟨if report.failed then 1 else 0, report.stdout, report.stderr⟩ := by
  simp [run, Outcome.ofReports]

/-- The exit code is zero if all files are usable, and one if some file is not. -/
theorem code_run (files : List Text) :
    (command.run contentOf files).code = 0 ∧ (∀ file ∈ files, IsUsable (contentOf file)) ∨
      (command.run contentOf files).code = 1 ∧
        ∃ file ∈ files, ¬ IsUsable (contentOf file) := by
  have someFails : (files.map fun name => command.report name (contentOf name)).any Report.failed ↔
      ∃ file ∈ files, ¬ IsUsable (contentOf file) := by
    simp [failed_report_iff]
  rw [run, Outcome.ofReports]
  split
  next fails => exact .inr ⟨rfl, someFails.mp fails⟩
  next clean =>
    refine .inl ⟨rfl, fun file member => Classical.byContradiction fun unusable => ?_⟩
    exact clean (someFails.mpr ⟨file, member, unusable⟩)

theorem isOfFile_run (file : Text) :
    (command.run contentOf [file]).IsOfFile file (contentOf file) where
  usable := by
    intro usable
    obtain ⟨printed, reportEq⟩ := command.report_of_isUsable file usable
    rw [run_singleton, reportEq]
    exact ⟨rfl, rfl⟩
  unusable := by
    intro unusable
    obtain ⟨text, fails⟩ := (isUsable_or_failsWith (contentOf file)).resolve_left unusable
    rw [run_singleton, command.report_of_failsWith file fails]
    exact ⟨rfl, rfl, text, fails, rfl⟩

/-- A run on several files leaves behind what the runs on each of them do. -/
theorem isJoined_run (files : List Text) :
    (command.run contentOf files).IsJoined contentOf files
      fun file => command.run contentOf [file] where
  stdout_eq := by simp [run, Outcome.ofReports, List.flatMap_map]
  stderr_eq := by simp [run, Outcome.ofReports, List.flatMap_map]
  code_eq_zero_iff := by
    rcases command.code_run contentOf files with ⟨code, usable⟩ | ⟨code, file, member, unusable⟩
    · exact ⟨fun _ => usable, fun _ => code⟩
    · rw [code]
      exact ⟨fun isZero => absurd isZero (by decide), fun usable =>
        absurd (usable file member) unusable⟩
  code_eq_one_iff := by
    rcases command.code_run contentOf files with ⟨code, usable⟩ | ⟨code, failing⟩
    · rw [code]
      refine ⟨fun isOne => absurd isOne (by decide), ?_⟩
      rintro ⟨file, member, unusable⟩
      exact absurd (usable file member) unusable
    · exact ⟨fun _ => failing, fun _ => code⟩
  isOfFile := fun file _ => command.isOfFile_run contentOf file

end Command

/-- A run looks at the contents of the named files and at no others. -/
theorem run_congr
    {contentOf other : Text → Except FileError ByteArray}
    {arguments : List Text}
    (same : ∀ name ∈ namedFiles arguments, contentOf name = other name) :
    run contentOf arguments = run other arguments := by
  rw [namedFiles] at same
  rw [run, run]
  cases asked : Request.ofArguments arguments with
  | error error => rfl
  | ok request =>
      rw [asked] at same
      cases request with
      | version => rfl
      | run command files =>
          refine congrArg (fun reports => Except.ok (Outcome.ofReports reports)) ?_
          refine List.map_congr_left fun name member => ?_
          rw [same name member]

/-- It is enough to read the named files before the run. -/
theorem run_contentIn
    (contentOf : Text → Except FileError ByteArray)
    (arguments : List Text) :
    run (contentIn ((namedFiles arguments).map fun name => (name, contentOf name))) arguments =
      run contentOf arguments := by
  refine run_congr fun name member => ?_
  rw [contentIn, List.lookup_graph contentOf member, Option.getD_some]

/-- Whatever arguments ask for a command on some files, the run leaves behind what the runs on
each of the files leave behind. -/
theorem run_isJoined
    (contentOf : Text → Except FileError ByteArray)
    {arguments : List Text}
    {command : Command}
    {files : List Text}
    (asked : Request.ofArguments arguments = .ok (.run command files)) :
    ∃ outcome : Outcome, ∃ alone : Text → Outcome,
      run contentOf arguments = .ok outcome ∧
      (∀ file ∈ files,
        Request.ofArguments (command.arguments [file]) = .ok (.run command [file]) ∧
        run contentOf (command.arguments [file]) = .ok (alone file)) ∧
      outcome.IsJoined contentOf files alone ∧
      ∀ name content,
        Command.check.output name content ≠
          .error "tokens do not reproduce the source".toList := by
  have run_eq {words : List Text} {operands : List Text}
      (isAsked : Request.ofArguments words = .ok (.run command operands)) :
      run contentOf words = .ok (command.run contentOf operands) := by
    rw [run, isAsked]
    rfl
  refine ⟨_, _, run_eq asked, ?_, command.isJoined_run contentOf files, Command.output_check_ne⟩
  intro file member
  obtain ⟨_, named⟩ := (exists_ofArguments_iff command files).mp ⟨arguments, asked⟩
  have single : [] ∉ [file] := by
    rw [List.mem_singleton]
    rintro rfl
    exact named member
  have askedAlone := ofArguments_arguments command (List.cons_ne_nil file []) single
  exact ⟨askedAlone, run_eq askedAlone⟩

/-- A script, a file of blanks, a byte that begins no character, and no other file. -/
def fewFiles (name : Text) : Except FileError ByteArray :=
  if name = "a.sql".toList then .ok "SELECT 1;".toUTF8
  else if name = "b.sql".toList then .ok " \n".toUTF8
  else if name = "c.sql".toList then .ok ⟨#[255]⟩
  else .error .missing

/-- Files that fail between others, one of them named like a flag. -/
theorem run_isJoined_fewFiles :
    ∃ arguments command files,
      arguments = ["tokens", "b.sql", "--json", "a.sql", "c.sql", "--", "--all"].map
        String.toList ∧
      Request.ofArguments arguments = .ok (.run command files) ∧
      ∃ outcome : Outcome, ∃ alone : Text → Outcome,
        run fewFiles arguments = .ok outcome ∧
        (∀ file ∈ files,
          Request.ofArguments (command.arguments [file]) = .ok (.run command [file]) ∧
          run fewFiles (command.arguments [file]) = .ok (alone file)) ∧
        outcome.IsJoined fewFiles files alone ∧
        ∀ name content,
          Command.check.output name content ≠
            .error "tokens do not reproduce the source".toList := by
  have asked : Request.ofArguments
      (["tokens", "b.sql", "--json", "a.sql", "c.sql", "--", "--all"].map String.toList) =
        .ok (.run (.tokens false true) (["b.sql", "a.sql", "c.sql", "--all"].map String.toList)) :=
    rfl
  exact ⟨_, _, _, rfl, asked, run_isJoined fewFiles asked⟩

end CommandLine
end SqlLexer
