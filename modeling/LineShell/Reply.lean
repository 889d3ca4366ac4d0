import LineShell.Command.Invocation
import LineShell.Command.Run

/-!
# Replies to lines

What a session does when it is given a line. A blank line does nothing. A line that calls no
command, or a command with operands that do not fit, is reported and not kept. Any other line is
recorded in its normal form and then carried out; if the command fails, that is reported too.
-/

namespace LineShell

/-- What a line does and what follows it. -/
structure Reply where
  /-- The effects of the line, in order. -/
  effects : List Effect
  /-- What follows the line. -/
  flow : Flow

namespace Session

/-- A line of the log about the reading of lines. -/
def note (text : String) : Effect :=
  .note ⟨.debug, .session, text⟩

/-- The command that an invocation asks for. -/
def command (invocation : Invocation) : Except CommandError Command :=
  match Builtin.find? invocation.name with
  | none => .error (.unknown invocation.name)
  | some builtin => (Command.read builtin invocation.operands).mapError .usage

/-- What an invocation does that is not carried out. -/
def refuse (invocation : Invocation) (error : CommandError) : Reply :=
  let told := match error with
    | .unknown word => s!"unknown command: {word}"
    | _ => s!"rejected arguments for {invocation.name}: {error.message}"
  ⟨[note told, .write (.report error), .flush], .next⟩

/-- What an invocation does that is carried out as the given command. -/
def carryOut (session : Session) (invocation : Invocation) (command : Command) : Reply :=
  let record : Effect := .record invocation.normalized
  let begun := [record, note s!"dispatching: {invocation.normalized}"]
  let run := command.run (session.after record)
  match run.result with
  | .ok flow => ⟨begun ++ run.effects ++ [.flush], flow⟩
  | .error failure =>
    ⟨begun ++ run.effects ++
      [note s!"{invocation.name} failed: {failure.message}", failure.reported, .flush], .next⟩

/-- What a line does. -/
def reply (session : Session) (line : String) : Reply :=
  match Invocation.ofLine? line with
  | none => ⟨[], .next⟩
  | some invocation =>
    match command invocation with
    | .error error => refuse invocation error
    | .ok command => session.carryOut invocation command

/-- What a call of a command by name does, without a line: the effects, and what follows or what
went wrong. Nothing is recorded. -/
def call (session : Session) (invocation : Invocation) :
    List Effect × Except CommandError Flow :=
  match command invocation with
  | .error error => ([], .error error)
  | .ok command =>
    let run := command.run session
    (run.effects, run.result.mapError .failed)

end Session

end LineShell
