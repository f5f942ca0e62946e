import SqlLexer.CommandLine.Run

/-!
# The command line program

Reads the files that the arguments name and prints what the command says about them.
-/

namespace SqlLexer
namespace CommandLine

/-- Reads the bytes of a file. -/
def readFileBytes (name : Text) : IO (Except FileError ByteArray) := do
  try
    let bytes ← IO.FS.readBinFile (String.ofList name)
    return .ok bytes
  catch error =>
    match error with
    | .noFileOrDirectory .. => return .error .missing
    | .inappropriateType .. => return .error .directory
    | .permissionDenied .. => return .error .forbidden
    | other => return .error (.unreadable (toString other).toList)

/-- Prints what a run leaves behind and gives its exit code. -/
def finish (outcome : Outcome) : IO UInt32 := do
  let stdout ← IO.getStdout
  stdout.putStr (String.ofList outcome.stdout)
  let stderr ← IO.getStderr
  stderr.putStr (String.ofList outcome.stderr)
  return UInt32.ofNat outcome.code

end CommandLine
end SqlLexer

open SqlLexer
open SqlLexer.CommandLine

/-- Runs the program and gives its exit code. -/
def main (arguments : List String) : IO UInt32 := do
  let words := arguments.map String.toList
  let contents ← (namedFiles words).mapM fun name => do
    return (name, ← readFileBytes name)
  finish (.ofRun (run (contentIn contents) words))
