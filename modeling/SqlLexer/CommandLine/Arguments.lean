import SqlLexer.Text.Basic

/-!
# Arguments of the command line

The first argument names a command or asks for the version.  The flags of a command stand
before, between or after its files, each at most once, until the argument `--` makes all the
rest files.
-/

namespace SqlLexer
namespace CommandLine

/-- What is done with every file. -/
inductive Command where
  /-- Lists the tokens, with trivia if `all`, as a document if `json`. -/
  | tokens (all json : Bool)
  /-- Confirms that the tokens make up the file. -/
  | check
  /-- Lists the declared names, as a document if `json`. -/
  | names (json : Bool)
deriving DecidableEq

/-- Why the arguments are not understood. -/
inductive UsageError where
  | missingCommand
  | unknownCommand (word : Text)
  | unknownFlag (word : Text)
  | repeatedFlag (word : Text)
  | missingFiles
  | emptyFileName
deriving DecidableEq

/-- What the arguments ask for. -/
inductive Request where
  | version
  | run (command : Command) (files : List Text)
deriving DecidableEq

/-- The message about arguments that are not understood. -/
def UsageError.message : UsageError → Text
  | .missingCommand => "expected a command: tokens, check or names".toList
  | .unknownCommand word => "unknown command '".toList ++ word ++ "'".toList
  | .unknownFlag word => "unknown flag '".toList ++ word ++ "'".toList
  | .repeatedFlag word => "flag '".toList ++ word ++ "' given twice".toList
  | .missingFiles => "expected at least one file".toList
  | .emptyFileName => "a file name is empty".toList

/-- The command of a given name, without flags. -/
def Command.ofName? (word : Text) : Option Command :=
  if word = "tokens".toList then some (.tokens false false)
  else if word = "check".toList then some .check
  else if word = "names".toList then some (.names false)
  else none

/-- Sets a flag that was off. -/
def setFlag (word : Text) (isSet : Bool) (command : Command) : Except UsageError Command :=
  if isSet then .error (.repeatedFlag word) else .ok command

/-- The command with one more flag. -/
def Command.addFlag (word : Text) : Command → Except UsageError Command
  | .tokens all json =>
      if word = "--all".toList then setFlag word all (.tokens true json)
      else if word = "--json".toList then setFlag word json (.tokens all true)
      else .error (.unknownFlag word)
  | .check => .error (.unknownFlag word)
  | .names json =>
      if word = "--json".toList then setFlag word json (.names true)
      else .error (.unknownFlag word)

/-- Whether an argument is a flag: it starts with a dash and is more than a dash. -/
def isFlag : Text → Bool
  | c :: _ :: _ => c = '-'
  | _ => false

/-- Arguments that are all files. -/
def readFiles (words : List Text) : Except UsageError (List Text) :=
  if words.contains [] then .error .emptyFileName else .ok words

/-- The flags and files after the name of a command. -/
def readOperands (command : Command) : List Text → Except UsageError (Command × List Text)
  | [] => .ok (command, [])
  | word :: rest =>
      if word = "--".toList then do
        let files ← readFiles rest
        return (command, files)
      else if isFlag word then do
        let flagged ← command.addFlag word
        readOperands flagged rest
      else if word = [] then .error .emptyFileName
      else do
        let (flagged, files) ← readOperands command rest
        return (flagged, word :: files)

/-- Whether an argument asks for the version; the short flag may have others behind it. -/
def asksVersion (word : Text) : Bool :=
  word = "--version".toList || "-V".toList.isPrefixOf word

/-- What a list of arguments asks for. -/
def Request.ofArguments : List Text → Except UsageError Request
  | [] => .error .missingCommand
  | word :: rest =>
      if asksVersion word then .ok .version
      else
        match Command.ofName? word with
        | none => .error (.unknownCommand word)
        | some command => do
            let (flagged, files) ← readOperands command rest
            if files.isEmpty then .error .missingFiles
            else return .run flagged files

end CommandLine
end SqlLexer
