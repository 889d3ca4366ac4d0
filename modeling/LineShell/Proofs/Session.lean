import Mathlib.Data.List.Basic
import LineShell.Command.Run
import LineShell.Proofs.Path.Location

/-!
# What effects make of a session

The effects of a command are carried out one after the other. Where the output takes all text, what
is delivered is the session after all of them (`session_deliver_unlimited`), so that what a command
does to a session can be read off its effects alone. Any other sink lets a first part of the effects
happen (`exists_session_deliver`): what each effect keeps is kept whatever the sink does
(`deliver_induction`).
-/

namespace LineShell

namespace Session

variable {session : Session}

/-- A session without files. -/
def emptyRoot : Session where
  files := .empty
  dir := ⟨.ofString "/", none⟩
  history := {}

/-- The session after some effects. -/
def afterAll (session : Session) (effects : List Effect) : Session :=
  effects.foldl after session

/-- The session after a command whose output has been taken. -/
def afterCommand (session : Session) (command : Command) : Session :=
  session.afterAll (command.run session).effects

theorem afterAll_append (front rest : List Effect) :
    session.afterAll (front ++ rest) = (session.afterAll front).afterAll rest :=
  List.foldl_append

@[simp]
theorem afterAll_nil (session : Session) : session.afterAll [] = session :=
  rfl

@[simp]
theorem afterAll_cons (session : Session) (effect : Effect) (rest : List Effect) :
    session.afterAll (effect :: rest) = (session.after effect).afterAll rest :=
  rfl

@[simp]
theorem after_note (session : Session) (line : LogLine) : session.after (.note line) = session :=
  rfl

@[simp]
theorem after_write (session : Session) (text : Segment) : session.after (.write text) = session :=
  rfl

@[simp]
theorem files_after_record (session : Session) (entry : String) :
    (session.after (.record entry)).files = session.files :=
  rfl

@[simp]
theorem dir_after_record (session : Session) (entry : String) :
    (session.after (.record entry)).dir = session.dir :=
  rfl

@[simp]
theorem files_after_store (session : Session) (files : FileSystem) :
    (session.after (.store files)).files = files :=
  rfl

@[simp]
theorem dir_after_store (session : Session) (files : FileSystem) :
    (session.after (.store files)).dir = session.dir :=
  rfl

@[simp]
theorem files_after_enter (session : Session) (dir : WorkingDirectory) :
    (session.after (.enter dir)).files = session.files :=
  rfl

@[simp]
theorem dir_after_enter (session : Session) (dir : WorkingDirectory) :
    (session.after (.enter dir)).dir = dir :=
  rfl

/-- The log is no part of a session. -/
theorem afterAll_notes (lines : List LogLine) :
    session.afterAll (lines.map Effect.note) = session := by
  induction lines with
  | nil => rfl
  | cons line rest ih => exact ih

end Session

/-- In an absolute working directory an operand denotes the path of a location. -/
theorem exists_resolve_eq_ofLocation {session : Session}
    (absolute : session.dir.current.isAbsolute = true) (operand : String) :
    ∃ loc : Location, (∀ name ∈ loc, Name.IsStep name) ∧
      session.dir.resolve operand = .ofLocation loc :=
  Path.exists_normalize_eq_ofLocation (Path.isAbsolute_join absolute _)

theorem Sink.accept?_unlimited (bytes : Bytes) : Sink.unlimited.accept? bytes = some .unlimited :=
  rfl

/-- Output that takes all text lets all effects happen. -/
theorem session_deliver_unlimited (palette : Palette) (session : Session)
    (effects : List Effect) :
    (deliver palette .unlimited session effects).session = session.afterAll effects := by
  induction effects generalizing session with
  | nil => rfl
  | cons effect rest ih =>
    cases effect with
    | write text =>
      rw [deliver, Sink.accept?_unlimited]
      exact ih session
    | flush | note _ | record _ | store _ | enter _ => exact ih _

section AnySink

variable {palette : Palette} {sink : Sink} {session : Session} {effects : List Effect}

/-- Any output lets a first part of the effects happen. -/
theorem exists_session_deliver (palette : Palette) (sink : Sink) (session : Session)
    (effects : List Effect) :
    ∃ done, done <+: effects ∧
      (deliver palette sink session effects).session = session.afterAll done := by
  induction effects generalizing sink session with
  | nil => exact ⟨[], List.nil_prefix, rfl⟩
  | cons effect rest ih =>
    have onward : ∀ left : Sink, ∃ done, done <+: effect :: rest ∧
        (deliver palette left (session.after effect) rest).session = session.afterAll done := by
      intro left
      obtain ⟨done, front, same⟩ := ih left (session.after effect)
      exact ⟨effect :: done, List.cons_prefix_cons.2 ⟨rfl, front⟩, same⟩
    cases effect with
    | write text =>
      rw [deliver]
      -- Only text that does not fit keeps the rest from happening.
      cases sink.accept? (text.render palette) with
      | some left => exact onward left
      | none => exact ⟨[], List.nil_prefix, rfl⟩
    | _ => exact onward sink

/-- What each of the effects keeps holds of what is delivered. -/
theorem deliver_induction {P : Session → Prop} (start : P session)
    (step : ∀ before, P before → ∀ effect ∈ effects, P (before.after effect)) :
    P (deliver palette sink session effects).session := by
  obtain ⟨done, front, same⟩ := exists_session_deliver palette sink session effects
  rw [same]
  exact List.foldlRecOn done Session.after start fun before holds effect mem =>
    step before holds effect (front.subset mem)

/-- The files that are left are those of the start, or some that have been stored. -/
theorem files_deliver {P : FileSystem → Prop} (start : P session.files)
    (stored : ∀ files, .store files ∈ effects → P files) :
    P (deliver palette sink session effects).session.files := by
  refine deliver_induction (P := fun later => P later.files) start fun before holds effect mem => ?_
  cases effect with
  | store files => exact stored files mem
  | _ => exact holds

/-- The working directory is that of the start, or one that has been entered. -/
theorem dir_deliver {P : WorkingDirectory → Prop} (start : P session.dir)
    (entered : ∀ dir, .enter dir ∈ effects → P dir) :
    P (deliver palette sink session effects).session.dir := by
  refine deliver_induction (P := fun later => P later.dir) start fun before holds effect mem => ?_
  cases effect with
  | enter dir => exact entered dir mem
  | _ => exact holds

theorem history_deliver (recordsNone : ∀ entry, .record entry ∉ effects) :
    (deliver palette sink session effects).session.history = session.history := by
  refine deliver_induction (P := fun later => later.history = session.history) rfl
    fun before same effect mem => ?_
  cases effect with
  | record entry => exact absurd mem (recordsNone entry)
  | _ => exact same

/-- Without text to write there is nothing that the output could refuse. -/
theorem written_deliver (writesNone : ∀ text, .write text ∉ effects) :
    (deliver palette sink session effects).written = [] ∧
      (deliver palette sink session effects).fault = none := by
  induction effects generalizing session with
  | nil => exact ⟨rfl, rfl⟩
  | cons effect rest ih =>
    have restWritesNone : ∀ text, .write text ∉ rest := fun text mem =>
      writesNone text (List.mem_cons_of_mem _ mem)
    cases effect with
    | write text => exact absurd List.mem_cons_self (writesNone text)
    | _ => exact ih restWritesNone

end AnySink

end LineShell
