import LineShell.Proofs.Line
import LineShell.Proofs.Text.Words

/-!
# What ends a session

A session is over when its command `exit` has been carried out, and no other command ends it. The
command takes no operands, so the line that calls it is that one word (`flow_reply_eq_exit_iff`).
-/

namespace LineShell

namespace Command

variable {session : Session} {command : Command} {builtin : Builtin} {operands : List String}

private theorem result_ofExcept_ne_exit (work : Except Failure (List Effect)) :
    (Run.ofExcept work).result ≠ .ok .exit := by
  cases work with
  | ok effects => simp [Run.ofExcept, Run.done]
  | error failure => simp [Run.ofExcept, Run.fail]

private theorem result_ofWork_ne_exit (work : Work Unit) (fs : FileSystem) :
    (Run.ofWork work fs).result ≠ .ok .exit := by
  unfold Run.ofWork
  split
  · simp [Run.done]
  · simp

private theorem result_copyDirectory_ne_exit (source destination : String) :
    (copyDirectory session source destination).result ≠ .ok .exit := by
  unfold copyDirectory
  simp only
  split
  · simp [Run.fail]
  · split
    · simp [Run.fail]
    · split
      · simp
      · simp [Run.done]
  · simp [Run.fail]

/-- Only one command ends a session. -/
theorem result_run_eq_exit_iff : (command.run session).result = .ok .exit ↔ command = .exit := by
  cases command with
  | exit => exact iff_of_true rfl rfl
  | cp recursive source destination =>
    cases recursive with
    | false => exact iff_of_false (result_ofWork_ne_exit _ _) (by simp)
    | true => exact iff_of_false (result_copyDirectory_ne_exit _ _) (by simp)
  -- These do their work or fail.
  | cd _ | rm _ | rmdir _ | touch _ => exact iff_of_false (result_ofWork_ne_exit _ _) (by simp)
  | ls _ | rmdirAll => exact iff_of_false (result_ofExcept_ne_exit _) (by simp)
  | cat _ | echo _ | help | history | mkdir _ | pwd => simp [run, Run.done]

private theorem readNone_eq_exit_iff {other : Command} :
    readNone builtin other operands = .ok .exit ↔ other = .exit ∧ operands = [] := by
  cases operands with
  | nil => simp [readNone]
  | cons first rest => simp [readNone]

private theorem readCopy_ne_exit : readCopy operands ≠ .ok .exit := by
  fun_cases readCopy operands with
  | _ => simp

/-- Only `exit` without operands is read as the command that ends a session. -/
theorem read_eq_exit_iff : read builtin operands = .ok .exit ↔ builtin = .exit ∧ operands = [] := by
  cases builtin with
  | exit | help | history | pwd => simp [read, readNone_eq_exit_iff]
  | cp => simp [read, readCopy_ne_exit]
  | echo => simp [read]
  | mkdir =>
    simp only [read, reduceCtorEq, false_and, iff_false]
    split_ifs <;> simp
  -- Whatever fits one of these is read as a command of that name.
  | cat | cd | ls | rm | rmdir | touch =>
    simp only [read, reduceCtorEq, false_and, iff_false]
    split
    all_goals (try split_ifs) <;> simp

end Command

theorem Builtin.find?_eq_exit_iff {word : String} :
    Builtin.find? word = some .exit ↔ word = "exit" := by
  constructor
  · intro found
    have named := List.find?_some found
    exact (of_decide_eq_true named).symm
  · rintro rfl
    decide

namespace Session

variable {session : Session} {text : String} {invocation : Invocation} {command : Command}

theorem command_eq_exit_iff :
    Session.command invocation = .ok .exit ↔ invocation = ⟨"exit", []⟩ := by
  obtain ⟨name, operands⟩ := invocation
  rw [Invocation.mk.injEq, ← Builtin.find?_eq_exit_iff, Session.command]
  cases Builtin.find? name with
  | none => simp
  | some builtin =>
    rw [Option.some.injEq, ← Command.read_eq_exit_iff]
    simp only
    cases Command.read builtin operands with
    | error error => simp [Except.mapError]
    | ok read => simp [Except.mapError]

theorem flow_carryOut_eq_exit_iff :
    (session.carryOut invocation command).flow = .exit ↔ command = .exit := by
  let recorded := session.after (.record invocation.normalized)
  have ends : (command.run recorded).result = .ok .exit ↔ command = .exit :=
    Command.result_run_eq_exit_iff
  rw [← ends, carryOut]
  -- A command that fails does not end the session, whatever it is.
  split <;> rename_i ended
  · simp [recorded, ended]
  · simp [recorded, ended]

/-- A session is over after a line exactly if the line is the one word `exit`. -/
theorem flow_reply_eq_exit_iff :
    (session.reply text).flow = .exit ↔ Text.words text = ["exit"] := by
  have called : Invocation.ofLine? text = some ⟨"exit", []⟩ ↔ Text.words text = ["exit"] :=
    Invocation.ofLine?_eq_some_iff
  rw [← called, reply]
  cases Invocation.ofLine? text with
  | none => simp
  | some invocation =>
    rw [Option.some.injEq, ← command_eq_exit_iff]
    simp only
    cases asked : Session.command invocation with
    | error error => simp [refuse]
    | ok command => simp [flow_carryOut_eq_exit_iff]

end Session

end LineShell
