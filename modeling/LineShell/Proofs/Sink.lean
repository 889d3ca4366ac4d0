import LineShell.Program
import LineShell.Proofs.Line
import LineShell.Proofs.Text.Words

/-!
# What a full sink cuts off

A sink with room for so many bytes takes the first ones of what is written and refuses the rest, in
the middle of a piece of output if need be (`written_deliver_limited`). What has happened by then
stays; nothing happens afterwards. Most commands are done with the files and the directory before
they write anything, so that only output is lost (`changesFirst_reply`); `mkdir` and `rmdir *`
report on the way, and where a report does not fit the directories that were to come are left alone.

The main result is `cutShort_limited`: a line that is read twice, with a sink that takes all output
and with one that does not, differs in what is written, in the error, and in nothing else but the
files of these two commands.
-/

namespace LineShell

/-- The sink that takes so many bytes, and then says that it is full. -/
def Sink.limited (room : Nat) (full : Fault) (flushFault : Option Fault) : Sink where
  room := some room
  full := full
  flushFault := flushFault

/-- Whether an effect asks the output to pass on what it has taken. -/
def Effect.isFlush : Effect → Bool
  | .flush => true
  | _ => false

namespace Delivery

/-- The error that a line ends with: its output has been cut short, or has not been passed on. -/
def error? (delivery : Delivery) : Option ProgramError :=
  (delivery.fault <|> delivery.unflushed).map .output

end Delivery

namespace Session

/-- What follows a line, or the error that it ends with. -/
def outcome (session : Session) (line : Line) : Except ProgramError Flow :=
  match (session.delivery line).error? with
  | some error => .error error
  | none => .ok (session.reply line.text).flow

end Session

/-! ## Limited output -/

section Limited

variable {palette : Palette} {sink : Sink} {room : Nat} {full : Fault} {flushFault : Option Fault}
  {session : Session} {text : Segment} {effects rest : List Effect}

theorem written_deliver_unlimited_write :
    (deliver palette .unlimited session (.write text :: rest)).written =
      text.render palette ++ (deliver palette .unlimited session rest).written :=
  rfl

theorem deliver_write_of_le (fits : (text.render palette).length ≤ room) :
    deliver palette (.limited room full flushFault) session (.write text :: rest) =
      let left : Sink := .limited (room - (text.render palette).length) full flushFault
      let later := deliver palette left session rest
      { later with written := text.render palette ++ later.written } := by
  have taken : (Sink.limited room full flushFault).accept? (text.render palette) =
      some (.limited (room - (text.render palette).length) full flushFault) := if_pos fits
  rw [deliver, taken]

theorem deliver_write_of_lt (tooLong : room < (text.render palette).length) :
    deliver palette (.limited room full flushFault) session (.write text :: rest) =
      ⟨session, (text.render palette).take room, [], some full, none⟩ := by
  have refused : (Sink.limited room full flushFault).accept? (text.render palette) = none :=
    if_neg (Nat.not_le.2 tooLong)
  rw [deliver, refused]
  rfl

/-- A sink takes as many bytes as it has room for. -/
theorem written_deliver_limited (session : Session) (effects : List Effect) :
    (deliver palette (.limited room full flushFault) session effects).written =
      (deliver palette .unlimited session effects).written.take room := by
  -- Each text that fits leaves less room for what comes after it.
  induction effects generalizing room session with
  | nil => exact List.take_nil.symm
  | cons effect rest ih =>
    cases effect with
    | write text =>
      rw [written_deliver_unlimited_write]
      rcases Nat.lt_or_ge room (text.render palette).length with tooLong | fits
      · rw [deliver_write_of_lt tooLong, List.take_append_of_le_length tooLong.le]
      · rw [deliver_write_of_le fits, List.take_append, List.take_of_length_le fits, ← ih]
    | flush | note _ | record _ | store _ | enter _ => exact ih _

/-- A sink fails if there is more to write than it has room for, and then it says that it is full.
-/
theorem fault_deliver_limited (session : Session) (effects : List Effect) :
    (deliver palette (.limited room full flushFault) session effects).fault =
      if room < (deliver palette .unlimited session effects).written.length then some full
      else none := by
  induction effects generalizing room session with
  | nil => rfl
  | cons effect rest ih =>
    cases effect with
    | write text =>
      rw [written_deliver_unlimited_write, List.length_append]
      rcases Nat.lt_or_ge room (text.render palette).length with tooLong | fits
      · rw [deliver_write_of_lt tooLong, if_pos (Nat.lt_add_right _ tooLong)]
      · rw [deliver_write_of_le fits]
        simp only [ih, Nat.sub_lt_iff_lt_add' fits]
    | flush | note _ | record _ | store _ | enter _ => exact ih _

/-- Taking text does not change what a sink says when it is flushed. -/
theorem Sink.flushFault_of_accept? {bytes : Bytes} {left : Sink}
    (taken : sink.accept? bytes = some left) : left.flushFault = sink.flushFault := by
  unfold accept? at taken
  split at taken
  · cases taken
    rfl
  · split_ifs at taken
    cases taken
    rfl

theorem Sink.accept?_of_room (endless : sink.room = none) (bytes : Bytes) :
    sink.accept? bytes = some sink := by
  rw [accept?, endless]

/-- A sink that takes any number of bytes never fails. -/
theorem fault_deliver_of_room (endless : sink.room = none) (palette : Palette) (session : Session)
    (effects : List Effect) : (deliver palette sink session effects).fault = none := by
  induction effects generalizing session with
  | nil => rfl
  | cons effect rest ih =>
    cases effect with
    | write text =>
      rw [deliver, Sink.accept?_of_room endless]
      exact ih session
    | flush | note _ | record _ | store _ | enter _ => exact ih _

/-- Output is refused by a sink that has less room than all of it takes, and only with what that
sink says when it is full. -/
theorem fault_deliver_eq_some_iff {fault : Fault} :
    (deliver palette sink session effects).fault = some fault ↔
      fault = sink.full ∧ ∃ room, sink.room = some room ∧
        room < (deliver palette .unlimited session effects).written.length := by
  obtain ⟨_ | room, full, flushFault⟩ := sink
  · rw [fault_deliver_of_room rfl]
    simp
  · show (deliver palette (.limited room full flushFault) session effects).fault = _ ↔ _
    rw [fault_deliver_limited]
    split_ifs with tooLong
    · simp [tooLong, eq_comm]
    · simp [tooLong]

/-- What a sink says when it is flushed is told if it is flushed at all. -/
theorem unflushed_deliver (complete : (deliver palette sink session effects).fault = none) :
    (deliver palette sink session effects).unflushed =
      if effects.any Effect.isFlush then sink.flushFault else none := by
  induction effects generalizing sink session with
  | nil => rfl
  | cons effect rest ih =>
    cases effect with
    | write text =>
      rw [deliver] at complete ⊢
      cases taken : sink.accept? (text.render palette) with
      | none =>
        rw [taken] at complete
        cases complete
      | some left =>
        rw [taken] at complete
        rw [← Sink.flushFault_of_accept? taken]
        exact ih complete
    | flush => rfl
    | note _ | record _ | store _ | enter _ => exact ih complete

end Limited

/-! ## Changes before output -/

/-- Effects that are done with the session before the first of them writes. -/
def ChangesFirst (effects : List Effect) : Prop :=
  ∃ front rest, effects = front ++ rest ∧ (∀ text, .write text ∉ front) ∧
    ∀ effect ∈ rest, effect.isOutput = true

/-- If the changes come first, all of them happen whatever the sink does. -/
theorem ChangesFirst.session_deliver {effects : List Effect} (h : ChangesFirst effects)
    (palette : Palette) (sink : Sink) (session : Session) :
    (deliver palette sink session effects).session = session.afterAll effects := by
  obtain ⟨front, rest, rfl, writesNone, output⟩ := h
  -- From the first text on nothing is changed, so it does not matter how far the output goes.
  have unchanged : ∀ (palette : Palette) (sink : Sink) (session : Session),
      (deliver palette sink session rest).session = session := by
    intro palette sink session
    refine deliver_induction (P := fun later => later = session) rfl
      fun before same effect mem => ?_
    rw [Session.after_of_isOutput (output effect mem), same]
  induction front generalizing session with
  | nil =>
    calc
      (deliver palette sink session rest).session = session := unchanged _ _ _
      _ = (deliver palette .unlimited session rest).session := (unchanged _ _ _).symm
      _ = session.afterAll rest := session_deliver_unlimited palette session rest
  | cons effect front ih =>
    have later := fun next => ih next fun text mem => writesNone text (List.mem_cons_of_mem _ mem)
    cases effect with
    | write text => exact absurd List.mem_cons_self (writesNone text)
    | flush | note _ | record _ | store _ | enter _ => exact later _

namespace Command

/-- Whether a command reports what it has not done to one directory before it goes on to the next.
-/
def reportsBetween : Command → Bool
  | mkdir _ | rmdirAll => true
  | _ => false

variable {session : Session} {command : Command} {source destination : String}

theorem write_notMem_copyDirectory (text : Segment) :
    .write text ∉ (copyDirectory session source destination).effects := by
  have notTold : ∀ lines : List LogLine, .write text ∉ lines.map Effect.note := by simp
  unfold copyDirectory
  simp only
  split
  · exact List.not_mem_nil
  · split
    · exact List.not_mem_nil
    · split
      · simp [notTold]
      · simp [Run.done, Builtin.note, notTold]
  · exact List.not_mem_nil

/-- Other commands write nothing, or they only write. -/
theorem writesNone_or_isOutput (h : command.reportsBetween = false) :
    (∀ text, .write text ∉ (command.run session).effects) ∨
      ∀ effect ∈ (command.run session).effects, effect.isOutput = true := by
  have does : ∀ effect ∈ (command.run session).effects,
      command.Does session.files session.dir effect :=
    fun _ mem => does_of_mem_run mem
  cases single : command.hasOneTarget with
  | true =>
    -- If its one target fails, it is the line that reports it, after the command.
    refine .inl fun text mem => ?_
    cases does _ mem with
    | write _ several =>
      rw [single] at several
      cases several
  | false =>
    cases command with
    | cp recursive source destination =>
      cases recursive with
      | true => exact .inl write_notMem_copyDirectory
      | false => cases single
    | mkdir _ | rmdirAll => cases h
    | cd _ | rm _ | rmdir _ | touch _ => cases single
    | _ =>
      -- What is left are the commands that show something and change nothing.
      refine .inr fun effect mem => ?_
      cases does _ mem with
      | note _ line => rfl
      | write text _ => rfl

end Command

namespace Session

variable {session : Session} {line : Line} {text : String} {invocation : Invocation}
  {command : Command} {palette : Palette} {room : Nat} {full : Fault} {flushFault : Option Fault}

/-- A line that is carried out is recorded; then its command runs, and at last there is output that
is passed on. -/
theorem exists_report_carryOut (session : Session) (invocation : Invocation) (command : Command) :
    ∃ line report,
      (session.carryOut invocation command).effects =
        [.record invocation.normalized, .note line] ++
          (command.run (session.after (.record invocation.normalized))).effects ++ report ∧
      (∀ effect ∈ report, effect.isOutput = true) ∧ report.any Effect.isFlush = true := by
  unfold carryOut
  simp only
  split
  · exact ⟨_, [.flush], rfl, by simp [Effect.isOutput], rfl⟩
  · refine ⟨_, [note _, Failure.reported _, .flush], rfl, ?_, rfl⟩
    simp [note, Failure.reported, Effect.isOutput]

theorem changesFirst_reply (accepted : acceptedCall? text = some (invocation, command))
    (h : command.reportsBetween = false) : ChangesFirst (session.reply text).effects := by
  obtain ⟨line, report, effects, output, -⟩ := exists_report_carryOut session invocation command
  rw [reply_of_accepted accepted, effects]
  rcases Command.writesNone_or_isOutput h with writesNone | onlyOutput
  · refine ⟨_, report, rfl, fun text mem => ?_, output⟩
    simp only [List.mem_append, List.mem_cons, List.not_mem_nil, or_false, reduceCtorEq,
      false_or] at mem
    exact writesNone text mem
  · refine ⟨[.record invocation.normalized], .note line :: _ ++ report, by simp; rfl, by simp, ?_⟩
    intro effect mem
    rcases List.mem_append.1 mem with mem | mem
    · rcases List.mem_cons.1 mem with rfl | mem
      · rfl
      · exact onlyOutput effect mem
    · exact output effect mem

/-- A line is passed on unless it is blank. -/
theorem any_isFlush_reply :
    (session.reply text).effects.any Effect.isFlush = (Invocation.ofLine? text).isSome := by
  unfold reply
  cases called : Invocation.ofLine? text with
  | none => rfl
  | some invocation =>
    simp only
    cases asked : Session.command invocation with
    | error error => rfl
    | ok command =>
      obtain ⟨line, report, effects, -, flushes⟩ :=
        exists_report_carryOut session invocation command
      simp only [effects, List.any_append, flushes, Bool.or_true, Option.isSome_some]

/-! ## The line as a whole -/

theorem outcome_unlimited (session : Session) (text : String) (palette : Palette) :
    session.outcome ⟨text, palette, .unlimited⟩ = .ok (session.reply text).flow := by
  have fault : (deliver palette .unlimited session (session.reply text).effects).fault = none :=
    fault_deliver_of_room rfl palette session _
  have unflushed : (session.delivery ⟨text, palette, .unlimited⟩).unflushed = none := by
    rw [delivery, unflushed_deliver fault]
    exact ite_self _
  have noError : (session.delivery ⟨text, palette, .unlimited⟩).error? = none := by
    rw [Delivery.error?, unflushed, delivery, fault]
    rfl
  rw [outcome, noError]

theorem outcome_eq_error_iff {error : ProgramError} :
    session.outcome line = .error error ↔ (session.delivery line).error? = some error := by
  unfold outcome
  cases (session.delivery line).error? with
  | none => simp
  | some other => simp

theorem eq_flow_of_outcome {flow : Flow} (h : session.outcome line = .ok flow) :
    flow = (session.reply line.text).flow := by
  unfold outcome at h
  cases failed : (session.delivery line).error? with
  | none =>
    rw [failed] at h
    exact (Except.ok.inj h).symm
  | some error =>
    rw [failed] at h
    cases h

/-- With limited output, a line ends with an error if the output does not fit, or if it fits and is
passed on in vain. -/
theorem error?_limited :
    (session.delivery ⟨text, palette, .limited room full flushFault⟩).error? =
      if room < (session.delivery ⟨text, palette, .unlimited⟩).written.length then
        some (.output full)
      else if (Invocation.ofLine? text).isSome then flushFault.map .output
      else none := by
  let effects := (session.reply text).effects
  have fault : (deliver palette (.limited room full flushFault) session effects).fault = _ :=
    fault_deliver_limited session effects
  unfold Delivery.error? delivery
  simp only
  split_ifs with tooLong notBlank
  · rw [fault, if_pos tooLong]
    rfl
  · rw [if_neg tooLong] at fault
    rw [fault, unflushed_deliver fault, any_isFlush_reply, if_pos notBlank]
    rfl
  · rw [if_neg tooLong] at fault
    rw [fault, unflushed_deliver fault, any_isFlush_reply, if_neg notBlank]
    rfl

section SameText

variable {other : Line} (same : line.text = other.text)

include same

/-- Where a command does not report between its changes, its line leaves the same session behind
wherever its output goes. -/
theorem afterLine_eq (h : ∀ invocation command,
      acceptedCall? line.text = some (invocation, command) → command.reportsBetween = false) :
    session.afterLine line = session.afterLine other := by
  cases accepted : acceptedCall? line.text with
  | none =>
    have refused : acceptedCall? other.text = none := same ▸ accepted
    rw [afterLine_of_refused accepted, afterLine_of_refused refused]
  | some call =>
    have changesFirst : ChangesFirst (session.reply line.text).effects :=
      changesFirst_reply accepted (h _ _ accepted)
    rw [afterLine, changesFirst.session_deliver, afterLine, ← same, changesFirst.session_deliver]

theorem history_afterLine_eq :
    (session.afterLine line).history = (session.afterLine other).history := by
  cases accepted : acceptedCall? line.text with
  | none =>
    have refused : acceptedCall? other.text = none := same ▸ accepted
    rw [afterLine_of_refused accepted, afterLine_of_refused refused]
  | some call =>
    have again : acceptedCall? other.text = some call := same ▸ accepted
    rw [history_afterLine accepted, history_afterLine again]

theorem dir_afterLine_eq : (session.afterLine line).dir = (session.afterLine other).dir := by
  -- A command that reports between its changes enters no directory.
  have stays : ∀ {line : Line} {invocation : Invocation} {command : Command},
      acceptedCall? line.text = some (invocation, command) → command.reportsBetween = true →
      (session.afterLine line).dir = session.dir := by
    intro line invocation command accepted reports
    refine dir_afterLine (P := fun dir => dir = session.dir) accepted rfl fun later does => ?_
    cases does with
    | enter _ => cases reports
  by_cases steady : ∀ invocation command, acceptedCall? line.text = some (invocation, command) →
      command.reportsBetween = false
  · rw [afterLine_eq same steady]
  · push Not at steady
    obtain ⟨invocation, command, accepted, reports⟩ := steady
    rw [ne_eq, Bool.not_eq_false] at reports
    have again : acceptedCall? other.text = some (invocation, command) := same ▸ accepted
    rw [stays accepted reports, stays again reports]

end SameText

/-- How a line that is read with limited output compares with the same line when all of its output
is taken. -/
structure CutShort (session : Session) (whole cut : Line) (room : Nat) : Prop where
  /-- The output begins in the same way, and goes as far as there is room. -/
  written : (session.delivery cut).written = (session.delivery whole).written.take room
  /-- There is an error if the output goes on beyond that, or if a line that is not blank cannot
  pass its output on. -/
  fails : (∃ error, session.outcome cut = .error error) ↔
    room < (session.delivery whole).written.length ∨
      cut.sink.flushFault ≠ none ∧ ∃ c ∈ cut.text.toList, Text.isBlank c = false
  /-- The error is what the sink says, and never another one. -/
  error : ∀ error, session.outcome cut = .error error →
    ∃ fault, error = .output fault ∧ (fault = cut.sink.full ∨ cut.sink.flushFault = some fault)
  /-- Without an error, the same follows. -/
  flow : ∀ flow, session.outcome cut = .ok flow → session.outcome whole = .ok flow
  /-- The history is the same. -/
  history : (session.afterLine cut).history = (session.afterLine whole).history
  /-- The working directory is the same. -/
  dir : (session.afterLine cut).dir = (session.afterLine whole).dir
  /-- The files are the same, unless the command reports between its changes. -/
  files : (∀ invocation command, acceptedCall? cut.text = some (invocation, command) →
      command.reportsBetween = false) →
    (session.afterLine cut).files = (session.afterLine whole).files

/-- A sink that takes no more than so many bytes, and may not pass them on, cuts the output of a
line short and changes nothing else, but for the files of a command that reports between its
changes. -/
theorem cutShort_limited (session : Session) (text : String) (palette : Palette) (room : Nat)
    (full : Fault) (flushFault : Option Fault) :
    session.CutShort ⟨text, palette, .unlimited⟩ ⟨text, palette, .limited room full flushFault⟩
      room where
  written := written_deliver_limited session _
  fails := by
    simp only [outcome_eq_error_iff, error?_limited]
    split_ifs with tooLong notBlank
    · exact iff_of_true ⟨_, rfl⟩ (.inl tooLong)
    · have letter := Invocation.isSome_ofLine?_iff.1 notBlank
      simp [tooLong, letter, Sink.limited, Option.ne_none_iff_exists']
    · have noLetter := mt Invocation.isSome_ofLine?_iff.2 notBlank
      simp [tooLong, noLetter]
  error error failed := by
    rw [outcome_eq_error_iff, error?_limited] at failed
    split_ifs at failed
    · exact ⟨full, (Option.some.inj failed).symm, .inl rfl⟩
    · obtain ⟨fault, told, rfl⟩ := Option.map_eq_some_iff.1 failed
      exact ⟨fault, rfl, .inr told⟩
  flow flow done := by
    rw [eq_flow_of_outcome done]
    exact outcome_unlimited session text palette
  history := history_afterLine_eq rfl
  dir := dir_afterLine_eq rfl
  files steady := congrArg Session.files (afterLine_eq rfl steady)

end Session

end LineShell
