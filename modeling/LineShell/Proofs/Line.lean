import LineShell.Proofs.Command.Effects
import LineShell.Proofs.Text.Words
import LineShell.Reply

/-!
# What lines can do

A line is carried out if it calls a command with operands that fit it (`acceptedCall?`). One that is
not carried out leaves the session as it was (`afterLine_of_refused`). One that is carried out does to
the files and to the working directory what its command can do (`files_afterLine`, `dir_afterLine`),
and adds itself to the history (`history_afterLine`), wherever its output goes and however much of it
is taken.
-/

namespace LineShell

/-- What a line calls that is carried out: its first word is the name of a command, and the other
words fit the command. -/
def acceptedCall? (text : String) : Option (Invocation × Command) := do
  let invocation ← Invocation.ofLine? text
  let builtin ← Builtin.find? invocation.name
  let command ← (Command.read builtin invocation.operands).toOption
  return (invocation, command)

theorem Builtin.find?_name (builtin : Builtin) : find? builtin.name = some builtin := by
  cases builtin <;> rfl

/-- A line for a session to read, and where its output goes. -/
structure Line where
  /-- The line as it is written. -/
  text : String
  /-- The colours that its output is written in. -/
  palette : Palette
  /-- Where its output goes. -/
  sink : Sink

/-- Whether an effect is one on the log or the output only. -/
def Effect.isOutput : Effect → Bool
  | .note _ | .write _ | .flush => true
  | .record _ | .store _ | .enter _ => false

namespace Session

/-- What comes of a line. -/
def delivery (session : Session) (line : Line) : Delivery :=
  deliver line.palette line.sink session (session.reply line.text).effects

/-- The session after a line. -/
def afterLine (session : Session) (line : Line) : Session :=
  (deliver line.palette line.sink session (session.reply line.text).effects).session

/-- The session after some lines. -/
def afterLines (session : Session) (lines : List Line) : Session :=
  lines.foldl afterLine session

variable {session : Session} {line : Line} {text : String} {invocation : Invocation}
  {command : Command} {effect : Effect}

theorem afterLines_concat (lines : List Line) (last : Line) :
    session.afterLines (lines ++ [last]) = (session.afterLines lines).afterLine last :=
  List.foldl_concat _ _ _ _

/-! ## The effects of a line -/

theorem after_of_isOutput (output : effect.isOutput = true) : session.after effect = session := by
  cases effect with
  | note line => rfl
  | write text => rfl
  | flush => rfl
  | _ => cases output

theorem acceptedCall?_eq_some_iff :
    acceptedCall? text = some (invocation, command) ↔
      Invocation.ofLine? text = some invocation ∧ Session.command invocation = .ok command := by
  -- A call is the command that its operands fit, or one of two errors.
  have asked : ∀ call : Invocation, Session.command call = .ok command ↔
      ∃ builtin, Builtin.find? call.name = some builtin ∧
        (Command.read builtin call.operands).toOption = some command := by
    intro call
    unfold Session.command
    cases Builtin.find? call.name with
    | none => simp
    | some builtin =>
      cases fits : Command.read builtin call.operands with
      | error error => simp [fits, Except.mapError, Except.toOption]
      | ok read => simp [fits, Except.mapError, Except.toOption]
  rw [asked]
  simp only [acceptedCall?, Option.bind_eq_bind, Option.bind_eq_some_iff, Option.pure_def,
    Option.some.injEq, Prod.mk.injEq]
  constructor
  · rintro ⟨called, lineCalls, builtin, named, read, fits, rfl, rfl⟩
    exact ⟨lineCalls, builtin, named, fits⟩
  · rintro ⟨lineCalls, builtin, named, fits⟩
    exact ⟨invocation, lineCalls, builtin, named, command, fits, rfl, rfl⟩

/-- A command is asked for by its name and by operands that fit it. -/
theorem command_name_eq_ok_iff {builtin : Builtin} {operands : List String} :
    Session.command ⟨builtin.name, operands⟩ = .ok command ↔
      Command.read builtin operands = .ok command := by
  rw [Session.command, Builtin.find?_name]
  cases fits : Command.read builtin operands with
  | ok read => simp [fits, Except.mapError]
  | error error => simp [fits, Except.mapError]

/-- A line is carried out whose first word is the name of a command and whose other words fit. -/
theorem acceptedCall?_of_words (builtin : Builtin) {operands : List String}
    (words : Text.words text = builtin.name :: operands)
    (fits : Command.read builtin operands = .ok command) :
    acceptedCall? text = some (⟨builtin.name, operands⟩, command) := by
  refine acceptedCall?_eq_some_iff.2 ⟨Invocation.ofLine?_eq_some_iff.2 words, ?_⟩
  exact command_name_eq_ok_iff.2 fits

theorem isOutput_of_refused (refused : acceptedCall? text = none)
    (h : effect ∈ (session.reply text).effects) : effect.isOutput = true := by
  unfold reply at h
  cases called : Invocation.ofLine? text with
  | none =>
    rw [called] at h
    cases h
  | some invocation =>
    rw [called] at h
    simp only at h
    cases asked : Session.command invocation with
    | error error =>
      -- Whatever is wrong with the call, it is reported in the log and in the output.
      simp only [asked, refuse, List.mem_cons, List.not_mem_nil, or_false] at h
      rcases h with rfl | rfl | rfl <;> rfl
    | ok command =>
      rw [acceptedCall?_eq_some_iff.2 ⟨called, asked⟩] at refused
      cases refused

theorem reply_of_accepted (accepted : acceptedCall? text = some (invocation, command)) :
    session.reply text = session.carryOut invocation command := by
  obtain ⟨called, asked⟩ := acceptedCall?_eq_some_iff.1 accepted
  simp only [reply, called, asked]

/-- A line that is carried out is recorded first; then its command does what it can do, and all else
is output. -/
theorem exists_effects_carryOut (session : Session) (invocation : Invocation) (command : Command) :
    ∃ rest, (session.carryOut invocation command).effects = .record invocation.normalized :: rest ∧
      ∀ effect ∈ rest, command.Does session.files session.dir effect ∨ effect.isOutput = true := by
  let recorded := session.after (.record invocation.normalized)
  -- What a command can do does not depend on the history.
  have does : ∀ effect ∈ (command.run recorded).effects,
      command.Does recorded.files recorded.dir effect :=
    fun _ mem => Command.does_of_mem_run mem
  unfold carryOut
  simp only
  split
  all_goals
    refine ⟨_, rfl, fun effect mem => ?_⟩
    simp only [List.append_eq, List.mem_append, List.mem_cons, List.not_mem_nil, or_false] at mem
  · rcases mem with (rfl | ran) | rfl
    · exact .inr rfl
    · exact .inl (does _ ran)
    · exact .inr rfl
  · rcases mem with (rfl | ran) | rfl | rfl | rfl
    · exact .inr rfl
    · exact .inl (does _ ran)
    all_goals exact .inr rfl

/-- Apart from its command a line that is carried out adds to the history and no more. -/
theorem afterAll_carryOut (session : Session) (invocation : Invocation) (command : Command) :
    let recorded := session.after (.record invocation.normalized)
    session.afterAll (session.carryOut invocation command).effects =
      recorded.afterAll (command.run recorded).effects := by
  intro recorded
  unfold carryOut
  simp only
  split
  · rw [afterAll_append, afterAll_append]
    rfl
  · rw [afterAll_append, afterAll_append]
    rfl

/-! ## The session after a line -/

theorem afterLine_of_refused (refused : acceptedCall? line.text = none) :
    session.afterLine line = session :=
  deliver_induction (P := fun later => later = session) rfl fun _ same _ mem =>
    (after_of_isOutput (isOutput_of_refused refused mem)).trans same

section Accepted

variable (accepted : acceptedCall? line.text = some (invocation, command))

include accepted

theorem does_of_mem_reply (h : effect ∈ (session.reply line.text).effects) :
    effect = .record invocation.normalized ∨ command.Does session.files session.dir effect ∨
      effect.isOutput = true := by
  obtain ⟨rest, begins, does⟩ := exists_effects_carryOut session invocation command
  rw [reply_of_accepted accepted, begins] at h
  exact (List.mem_cons.1 h).imp_right (does effect)

/-- The files after a line are those before it, or some that its command can store. -/
theorem files_afterLine {P : FileSystem → Prop} (start : P session.files)
    (stored : ∀ files, command.Does session.files session.dir (.store files) → P files) :
    P (session.afterLine line).files := by
  refine files_deliver start fun files mem => ?_
  rcases does_of_mem_reply accepted mem with recorded | does | output
  · cases recorded
  · exact stored files does
  · cases output

/-- The working directory after a line is that before it, or one that its command can enter. -/
theorem dir_afterLine {P : WorkingDirectory → Prop} (start : P session.dir)
    (entered : ∀ dir, command.Does session.files session.dir (.enter dir) → P dir) :
    P (session.afterLine line).dir := by
  refine dir_deliver start fun dir mem => ?_
  rcases does_of_mem_reply accepted mem with recorded | does | output
  · cases recorded
  · exact entered dir does
  · cases output

/-- Only `cd` enters another directory. -/
theorem dir_afterLine_of_ne_cd (stays : ∀ directory, command ≠ .cd directory) :
    (session.afterLine line).dir = session.dir := by
  refine dir_afterLine (P := fun dir => dir = session.dir) accepted rfl fun later does => ?_
  cases does with
  | enter _ => exact absurd rfl (stays _)

theorem history_afterLine :
    (session.afterLine line).history = session.history.record invocation.normalized := by
  obtain ⟨rest, begins, does⟩ := exists_effects_carryOut session invocation command
  have recordsNone : ∀ entry, .record entry ∉ rest := by
    intro entry mem
    rcases does _ mem with does | output
    · cases does
    · cases output
  let recorded := session.after (.record invocation.normalized)
  calc
    (session.afterLine line).history
      = (deliver line.palette line.sink recorded rest).session.history := by
        rw [afterLine, reply_of_accepted accepted, begins]
        rfl
    _ = recorded.history := history_deliver recordsNone

end Accepted

end Session

end LineShell
