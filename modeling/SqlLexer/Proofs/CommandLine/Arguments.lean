import SqlLexer.CommandLine.Arguments

/-!
# Arguments that ask for a command

A command with its flags can be asked for on any files with names.  No arguments ask for it on a
file whose name is empty, or on no files.
-/

namespace SqlLexer
namespace CommandLine
namespace Command

/-- The word that names a command. -/
def word : Command → Text
  | .tokens _ _ => "tokens".toList
  | .check => "check".toList
  | .names _ => "names".toList

/-- A command without its flags. -/
def bare : Command → Command
  | .tokens _ _ => .tokens false false
  | .check => .check
  | .names _ => .names false

/-- The flags of a command. -/
def flags : Command → List Text
  | .tokens all json =>
      (if all then ["--all".toList] else []) ++ if json then ["--json".toList] else []
  | .check => []
  | .names json => if json then ["--json".toList] else []

/-- Arguments that ask for a command on some files: its flags, and the files behind `--`. -/
def arguments (command : Command) (files : List Text) : List Text :=
  command.word :: (command.flags ++ "--".toList :: files)

theorem ofName?_word (command : Command) : ofName? command.word = some command.bare := by
  cases command <;> rfl

theorem asksVersion_word (command : Command) : asksVersion command.word = false := by
  cases command <;> rfl

end Command

/-- The flags of a command, put in front of other operands, turn the bare command into it. -/
theorem readOperands_flags (command : Command) (rest : List Text) :
    readOperands command.bare (command.flags ++ rest) = readOperands command rest := by
  cases command with
  | tokens all json => cases all <;> cases json <;> rfl
  | check => rfl
  | names json => cases json <;> rfl

theorem readFiles_eq_ok_iff (words files : List Text) :
    readFiles words = .ok files ↔ [] ∉ words ∧ words = files := by
  rw [readFiles]
  split <;> simp_all

/-- Behind `--` all operands are files. -/
theorem readOperands_separator
    (command : Command)
    {files : List Text}
    (named : [] ∉ files) :
    readOperands command ("--".toList :: files) = .ok (command, files) := by
  rw [readOperands, if_pos rfl, (readFiles_eq_ok_iff files files).mpr ⟨named, rfl⟩]
  rfl

/-- The arguments of a command ask for it. -/
theorem ofArguments_arguments
    (command : Command)
    {files : List Text}
    (nonempty : files ≠ [])
    (named : [] ∉ files) :
    Request.ofArguments (command.arguments files) = .ok (.run command files) := by
  rw [Command.arguments, Request.ofArguments, command.asksVersion_word,
    if_neg Bool.false_ne_true, command.ofName?_word]
  simp only [readOperands_flags, readOperands_separator command named]
  exact if_neg (by simpa using nonempty)

/-- A reading with a result went on from the result of its first part. -/
theorem bind_eq_ok_iff
    {α β : Type}
    (first : Except UsageError α)
    (next : α → Except UsageError β)
    (result : β) :
    first >>= next = .ok result ↔ ∃ value, first = .ok value ∧ next value = .ok result := by
  cases first <;> simp [bind, Except.bind]

/-- The files among operands have names. -/
theorem named_of_readOperands
    {command flagged : Command}
    {words files : List Text}
    (read : readOperands command words = .ok (flagged, files)) :
    [] ∉ files := by
  fun_induction readOperands command words generalizing flagged files with
  | case1 command =>
      cases read
      exact List.not_mem_nil
  | case2 command rest =>
      obtain ⟨_, behind, read⟩ := (bind_eq_ok_iff _ _ _).mp read
      cases read
      obtain ⟨named, rfl⟩ := (readFiles_eq_ok_iff _ _).mp behind
      exact named
  | case3 command word rest _ _ inductionHypothesis =>
      obtain ⟨_, _, read⟩ := (bind_eq_ok_iff _ _ _).mp read
      exact inductionHypothesis _ read
  | case4 => cases read
  | case5 command word rest _ _ nonempty inductionHypothesis =>
      obtain ⟨⟨_, _⟩, later, read⟩ := (bind_eq_ok_iff _ _ _).mp read
      cases read
      exact List.not_mem_cons_of_ne_of_not_mem (Ne.symm nonempty) (inductionHypothesis later)

/-- A command can be asked for on any files with names, and on no others. -/
theorem exists_ofArguments_iff (command : Command) (files : List Text) :
    (∃ arguments, Request.ofArguments arguments = .ok (.run command files)) ↔
      files ≠ [] ∧ [] ∉ files := by
  constructor
  · rintro ⟨arguments, asked⟩
    unfold Request.ofArguments at asked
    split at asked
    next => cases asked
    next word rest =>
      split at asked
      next => cases asked
      split at asked
      next => cases asked
      next bare _ =>
        obtain ⟨⟨flagged, operands⟩, read, asked⟩ := (bind_eq_ok_iff _ _ _).mp asked
        cases operands with
        | nil => cases asked
        | cons operand others =>
            cases asked
            exact ⟨List.cons_ne_nil operand others, named_of_readOperands read⟩
  · rintro ⟨nonempty, named⟩
    exact ⟨command.arguments files, ofArguments_arguments command nonempty named⟩

end CommandLine
end SqlLexer
