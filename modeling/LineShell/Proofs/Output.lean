import LineShell.Proofs.Line
import LineShell.Proofs.Text.Utf8

/-!
# What a line writes

Output that takes all text receives the pieces of output among the effects of a line, in their order
(`written_deliver_unlimited`). A line that is carried out writes what its command writes and, if the
command fails, the report of the failure at the end (`segments_carryOut`). So what a line leaves and
prints can be told from the run of its command (`leaves_of_done`, `reports_of_fail`).
-/

namespace LineShell

/-- A line whose output is taken whole. -/
def Line.whole (palette : Palette) (text : String) : Line :=
  ⟨text, palette, .unlimited⟩

/-- The piece of output that an effect writes, if it writes one. -/
def Effect.segment? : Effect → Option Segment
  | .write text => some text
  | _ => none

/-- The pieces of output among some effects, in order. -/
def segments (effects : List Effect) : List Segment :=
  effects.filterMap Effect.segment?

variable {front rest : List Effect}

theorem segments_append : segments (front ++ rest) = segments front ++ segments rest :=
  List.filterMap_append

theorem segments_map_write (texts : List Segment) : segments (texts.map Effect.write) = texts := by
  have same : Effect.segment? ∘ Effect.write = some := rfl
  rw [segments, List.filterMap_map, same, List.filterMap_some]

theorem mem_segments_iff {text : Segment} {effects : List Effect} :
    text ∈ segments effects ↔ .write text ∈ effects := by
  constructor
  · intro mem
    obtain ⟨effect, isEffect, writes⟩ := List.mem_filterMap.1 mem
    cases effect with
    | write other =>
      cases writes
      exact isEffect
    | _ => cases writes
  · exact fun mem => List.mem_filterMap.2 ⟨_, mem, rfl⟩

/-- Output that takes all text receives all pieces. -/
theorem written_deliver_unlimited (palette : Palette) (session : Session) (effects : List Effect) :
    (deliver palette .unlimited session effects).written =
      (segments effects).flatMap (Segment.render palette) := by
  induction effects generalizing session with
  | nil => rfl
  | cons effect rest ih =>
    cases effect with
    | write text =>
      rw [deliver, Sink.accept?_unlimited]
      exact congrArg (text.render palette ++ ·) (ih session)
    | flush | note _ | record _ | store _ | enter _ => exact ih _

/-- The report of an error is never empty. -/
theorem Segment.render_report_ne_nil (palette : Palette) (error : CommandError) :
    render palette (.report error) ≠ [] := by
  rw [render, Text.encode, String.toList_append, Text.encodeChars_append]
  exact List.append_ne_nil_of_right_ne_nil _ (by decide)

namespace Session

/-- What some lines write, one after the other. -/
def output (session : Session) : List Line → Bytes
  | [] => []
  | line :: rest => (session.delivery line).written ++ (session.afterLine line).output rest

theorem afterLine_whole (palette : Palette) (session : Session) (text : String) :
    session.afterLine (.whole palette text) = session.afterAll (session.reply text).effects :=
  session_deliver_unlimited palette session _

/-- A line that prints nothing and leaves the given files and working directory. -/
structure Leaves (session : Session) (palette : Palette) (text : String) (files : FileSystem)
    (dir : WorkingDirectory) : Prop where
  /-- It prints nothing. -/
  silent : (session.delivery (.whole palette text)).written = []
  /-- It leaves the files. -/
  files : (session.afterLine (.whole palette text)).files = files
  /-- It leaves the working directory. -/
  dir : (session.afterLine (.whole palette text)).dir = dir

/-- What a line writes that is carried out. -/
theorem segments_carryOut (session : Session) (invocation : Invocation) (command : Command) :
    let run := command.run (session.after (.record invocation.normalized))
    segments (session.carryOut invocation command).effects =
      segments run.effects ++
        match run.result with
        | .ok _ => []
        | .error failure => [.report (.failed failure)] := by
  intro run
  unfold carryOut
  simp only
  split
  · rename_i flow ended
    have ended : run.result = .ok flow := ended
    rw [ended, segments_append, segments_append]
    rfl
  · rename_i failure ended
    have ended : run.result = .error failure := ended
    rw [ended, segments_append, segments_append]
    rfl

section Accepted

variable {text : String} {invocation : Invocation} {command : Command}
  (accepted : acceptedCall? text = some (invocation, command))

include accepted

theorem afterLine_of_accepted (palette : Palette) (session : Session) :
    session.afterLine (.whole palette text) =
      (session.after (.record invocation.normalized)).afterCommand command := by
  rw [afterLine_whole, reply_of_accepted accepted]
  exact afterAll_carryOut session invocation command

theorem written_of_accepted (palette : Palette) (session : Session) :
    let run := command.run (session.after (.record invocation.normalized))
    (session.delivery (.whole palette text)).written =
      (segments run.effects ++
        match run.result with
        | .ok _ => []
        | .error failure => [.report (.failed failure)]).flatMap (Segment.render palette) := by
  intro run
  rw [delivery, Line.whole, written_deliver_unlimited, reply_of_accepted accepted,
    segments_carryOut]

/-- A command that does its work and has nothing to print leaves what its effects make. -/
theorem leaves_of_done (palette : Palette) (session : Session) {effects : List Effect}
    (runs : command.run (session.after (.record invocation.normalized)) = .done effects)
    (printsNone : segments effects = []) :
    let later := (session.after (.record invocation.normalized)).afterAll effects
    session.Leaves palette text later.files later.dir := by
  intro later
  have left : session.afterLine (.whole palette text) = later := by
    rw [afterLine_of_accepted accepted, afterCommand, runs, Run.done]
  refine ⟨?_, by rw [left], by rw [left]⟩
  rw [written_of_accepted accepted, runs, Run.done]
  simp only [printsNone, List.append_nil, List.flatMap_nil]

/-- A command that fails is reported, and only the line has been recorded. -/
theorem reports_of_fail (palette : Palette) (session : Session) {failure : Failure}
    (runs : command.run (session.after (.record invocation.normalized)) = .fail failure) :
    (session.delivery (.whole palette text)).written ≠ [] ∧
      session.afterLine (.whole palette text) =
        session.after (.record invocation.normalized) := by
  constructor
  · rw [written_of_accepted accepted, runs, Run.fail]
    show ([] ++ [Segment.report _]).flatMap _ ≠ []
    rw [List.nil_append, List.flatMap_singleton]
    exact Segment.render_report_ne_nil palette _
  · rw [afterLine_of_accepted accepted, afterCommand, runs, Run.fail, afterAll_nil]

end Accepted

end Session

end LineShell
