import SqlLexer.Proofs.CommandLine.Files
import SqlLexer.Proofs.Text.Lines
import SqlLexer.Proofs.Text.Numeral

/-!
# Listings of one file

A command on one accepted file prints its listing of the file and nothing else.  The place at the
start of an entry breaks no line and has no quotes.
-/

namespace SqlLexer
namespace CommandLine

/-- A command that is asked for on one accepted file prints what it prints about the content. -/
theorem run_of_accepted
    {contentOf : Text → Except FileError ByteArray}
    {arguments : List Text}
    {command : Command}
    {file content : Text}
    (asked : Request.ofArguments arguments = .ok (.run command [file]))
    (stored : contentOf file = .ok content.utf8Encode)
    (solid : ∃ c ∈ content, c ∉ [' ', '\t', '\r', '\n']) :
    run contentOf arguments = .ok ⟨0, command.printed file content, []⟩ := by
  have runEq : run contentOf arguments = .ok (command.run contentOf [file]) := by
    rw [run, asked]
    rfl
  rw [runEq, command.run_singleton contentOf file, stored, command.report_of_accepted file solid]
  rfl

/-- A place is made of digits and a colon. -/
theorem not_mem_locationEntry
    {c : Char}
    (noDigit : c.isDigit = false)
    (noColon : c ≠ ':')
    (location : Location) :
    c ∉ locationEntry location := by
  have noDecimal (number : Nat) : c ∉ Text.decimal number := by
    intro member
    rw [Text.isDigit_of_mem_decimal member] at noDigit
    contradiction
  simp [locationEntry, noDecimal, noColon]

end CommandLine
end SqlLexer
