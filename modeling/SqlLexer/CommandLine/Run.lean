import SqlLexer.CommandLine.Arguments
import SqlLexer.CommandLine.Listing

/-!
# Running a command

A command treats its files one after the other.  A file that fails adds one line to the error
output and leaves the others alone; the exit code tells whether some file failed.
-/

namespace SqlLexer
namespace CommandLine

/-- Why a file cannot be read. -/
inductive FileError where
  | missing
  | directory
  | forbidden
  | unreadable (reason : Text)
  | notUnicode
deriving DecidableEq

/-- What is wrong with the file.  The common causes carry the number that the system gives
them. -/
def FileError.message : FileError → Text
  | .missing => "No such file or directory (os error 2)".toList
  | .directory => "Is a directory (os error 21)".toList
  | .forbidden => "Permission denied (os error 13)".toList
  | .unreadable reason => reason
  | .notUnicode => "stream did not contain valid UTF-8".toList

/-- What one file contributes to the output, and whether it failed. -/
structure Report where
  stdout : Text
  stderr : Text
  failed : Bool
deriving DecidableEq

/-- What a run leaves behind. -/
structure Outcome where
  code : Nat
  stdout : Text
  stderr : Text
deriving DecidableEq

/-- The text of a file, which is in UTF-8. -/
def decode (bytes : ByteArray) : Except FileError Text :=
  match String.fromUTF8? bytes with
  | some content => .ok content.toList
  | none => .error .notUnicode

/-- The output of a command for the content of a file, or a message about the content. -/
def Command.output
    (command : Command)
    (name : Text)
    (content : Text) : Except Text Text :=
  match command with
  | .tokens all json =>
      match tokenize content with
      | .error error => .error error.message
      | .ok found => .ok (listTokens all json found)
  | .check =>
      match tokenize content with
      | .error error => .error error.message
      | .ok found =>
          if Token.concatText found = content then
            .ok (name ++ ": ok (".toList ++ Text.decimal found.length ++ " tokens)\n".toList)
          else .error "tokens do not reproduce the source".toList
  | .names json =>
      match declaredNamesOfSource content with
      | .error error => .error error.message
      | .ok declared => .ok (listNames json declared)

/-- The report on one file. -/
def Command.report
    (command : Command)
    (name : Text)
    (file : Except FileError ByteArray) : Report :=
  let result : Except Text Text :=
    match file.bind decode with
    | .error error => .error error.message
    | .ok content => command.output name content
  match result with
  | .ok output => ⟨output, [], false⟩
  | .error message => ⟨[], name ++ ": ".toList ++ message ++ ['\n'], true⟩

/-- The reports on all files, one after the other. -/
def Outcome.ofReports (reports : List Report) : Outcome where
  code := if reports.any Report.failed then 1 else 0
  stdout := reports.flatMap Report.stdout
  stderr := reports.flatMap Report.stderr

/-- The name and version of the program. -/
def versionLine : Text :=
  "pgsql-lex 0.1.0\n".toList

/-- Runs a command on files that are read by name. -/
def Command.run
    (command : Command)
    (contentOf : Text → Except FileError ByteArray)
    (files : List Text) : Outcome :=
  .ofReports (files.map fun name => command.report name (contentOf name))

/-- Does what the arguments ask for. -/
def run
    (contentOf : Text → Except FileError ByteArray)
    (arguments : List Text) : Except UsageError Outcome := do
  match ← Request.ofArguments arguments with
  | .version => return ⟨0, versionLine, []⟩
  | .run command files => return command.run contentOf files

/-- What the program leaves behind: an error message if the arguments are not understood. -/
def Outcome.ofRun : Except UsageError Outcome → Outcome
  | .ok outcome => outcome
  | .error error => ⟨2, [], "error: ".toList ++ error.message ++ ['\n']⟩

/-- The files that a request is about. -/
def Request.files : Request → List Text
  | .version => []
  | .run _ files => files

/-- The files that are named by the arguments, if those are understood. -/
def namedFiles (arguments : List Text) : List Text :=
  match Request.ofArguments arguments with
  | .ok request => request.files
  | .error _ => []

/-- The content of a file among those that have been read. -/
def contentIn
    (contents : List (Text × Except FileError ByteArray))
    (name : Text) : Except FileError ByteArray :=
  (contents.lookup name).getD (.error .missing)

end CommandLine
end SqlLexer
