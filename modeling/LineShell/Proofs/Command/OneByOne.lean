import LineShell.Platform.Unix
import Mathlib.Data.List.Forall2
import LineShell.Proofs.Output
import LineShell.Proofs.WorkingDirectory

/-!
# Several operands and several lines

`mkdir` and `cat` carry out their operands one by one, and a target that fails does not keep them from
the next one. So a line with several operands leaves what as many lines with one operand each leave, and
writes what they write, in the same order (`doesAllOf`). It does not matter which targets fail: their
reports are those that the lines of their own would end with.

What the two commands have in common for this is said by `OneByOne`: the first operand is done like an
only one, and the others are done in the session after it. The lines are compared by induction on the
operands (`OneByOne.output_afterLines`).
-/

namespace LineShell

namespace Session

/-- Two sessions are the same but for their histories. -/
structure Alike (a b : Session) : Prop where
  /-- The files are the same. -/
  files : b.files = a.files
  /-- The working directory is the same. -/
  dir : b.dir = a.dir

variable {a b : Session}

theorem Alike.record (alike : a.Alike b) (entry : String) : a.Alike (b.after (.record entry)) :=
  ⟨alike.files, alike.dir⟩

/-- The same effects leave sessions the same. -/
theorem Alike.afterAll (alike : a.Alike b) (effects : List Effect) :
    (a.afterAll effects).Alike (b.afterAll effects) := by
  induction effects generalizing a b with
  | nil => exact alike
  | cons effect rest ih =>
    refine ih ?_
    cases effect with
    | store files => exact ⟨rfl, alike.dir⟩
    | enter dir => exact ⟨alike.files, rfl⟩
    | _ => exact ⟨alike.files, alike.dir⟩

end Session

namespace Command

/-- A command does its operands one by one. -/
structure OneByOne (command : List String → Command) : Prop where
  /-- No operands, nothing to do. -/
  nil : ∀ session, ((command []).run session).effects = []
  /-- The first operand is done like an only one, and the others are done after it. -/
  cons : ∀ session first rest, ((command (first :: rest)).run session).effects =
    ((command [first]).run session).effects ++
      ((command rest).run (session.afterCommand (command [first]))).effects
  /-- The command does not look at the history. -/
  congr : ∀ {a b : Session}, a.Alike b →
    ∀ operands, (command operands).run b = (command operands).run a
  /-- The command succeeds even if all of its targets fail. -/
  succeeds : ∀ session operands, ((command operands).run session).result = .ok .next

theorem oneByOne_mkdir : OneByOne mkdir where
  nil _ := rfl
  cons session first rest := by
    -- What has been made of the first operand is what is left for the others.
    obtain ⟨made, line, -, onward⟩ | ⟨why, onward⟩ :=
      makeDirectories_cases session.dir session.files first
    · have left : session.afterCommand (mkdir [first]) = { session with files := made } := by
        rw [Session.afterCommand, run, Run.done, onward]
        rfl
      rw [left]
      simp only [run, Run.done, onward]
      rfl
    · have same : session.afterCommand (mkdir [first]) = session := by
        rw [Session.afterCommand, run, Run.done, onward]
        rfl
      rw [same]
      simp only [run, Run.done, onward]
      rfl
  congr alike operands := by
    simp only [run, alike.files, alike.dir]
  succeeds _ _ := rfl

/-- Printing a file changes nothing. -/
theorem afterAll_printFile (session : Session) (operand : String) :
    session.afterAll (printFile session operand) = session := by
  obtain ⟨contents, -, shown⟩ | ⟨fault, -, shown⟩ := printFile_cases session operand
  · rw [shown]
    rfl
  · rw [shown]
    rfl

theorem oneByOne_cat : OneByOne cat where
  nil _ := rfl
  cons session first rest := by
    have same : session.afterCommand (cat [first]) = session := by
      simp [Session.afterCommand, run, Run.done, afterAll_printFile]
    rw [same]
    simp [run, Run.done]
  congr {a b} alike operands := by
    have same : printFile b = printFile a := by
      funext operand
      simp only [printFile, alike.files, alike.dir]
    simp only [run, same]
  succeeds _ _ := rfl

variable {command : List String → Command}

/-- Lines with one operand each leave what one run with all of the operands leaves, and write what it
writes. -/
theorem OneByOne.output_afterLines (oneByOne : OneByOne command) (palette : Palette)
    {texts operands : List String}
    (calls : List.Forall₂ (fun text operand => ∃ invocation,
      acceptedCall? text = some (invocation, command [operand])) texts operands)
    {start session : Session} (alike : start.Alike session) :
    (start.afterCommand (command operands)).Alike
        (session.afterLines (texts.map (Line.whole palette))) ∧
      session.output (texts.map (Line.whole palette)) =
        (segments ((command operands).run start).effects).flatMap (Segment.render palette) := by
  induction calls generalizing start session with
  | nil =>
    rw [Session.afterCommand, oneByOne.nil]
    exact ⟨alike, rfl⟩
  | @cons text operand texts operands call _ ih =>
    obtain ⟨invocation, accepted⟩ := call
    have recorded := alike.record invocation.normalized
    -- The first line does what the first operand does.
    have first : (start.afterCommand (command [operand])).Alike
        (session.afterLine (.whole palette text)) := by
      rw [Session.afterLine_of_accepted accepted, Session.afterCommand, Session.afterCommand,
        oneByOne.congr recorded]
      exact recorded.afterAll _
    have writes : (session.delivery (.whole palette text)).written =
        (segments ((command [operand]).run start).effects).flatMap (Segment.render palette) := by
      rw [Session.written_of_accepted accepted, oneByOne.succeeds, List.append_nil,
        oneByOne.congr recorded]
    obtain ⟨after, output⟩ := ih first
    constructor
    · rw [Session.afterCommand, oneByOne.cons, Session.afterAll_append]
      exact after
    · rw [oneByOne.cons, segments_append, List.flatMap_append, ← writes, ← output]
      rfl

end Command

namespace Session

/-- One line does what some other lines do. -/
structure DoesAllOf (session : Session) (palette : Palette) (text : String) (texts : List String) :
    Prop where
  /-- It leaves the same files. -/
  files : (session.afterLine (.whole palette text)).files =
    (session.afterLines (texts.map (Line.whole palette))).files
  /-- It leaves the same working directory. -/
  dir : (session.afterLine (.whole palette text)).dir =
    (session.afterLines (texts.map (Line.whole palette))).dir
  /-- It writes the same bytes. -/
  written : (session.delivery (.whole palette text)).written =
    session.output (texts.map (Line.whole palette))

variable {command : List String → Command} {text : String} {texts operands : List String}

theorem doesAllOf_of_oneByOne (oneByOne : Command.OneByOne command) (session : Session)
    (palette : Palette) {invocation : Invocation}
    (accepted : acceptedCall? text = some (invocation, command operands))
    (calls : List.Forall₂ (fun text operand => ∃ invocation,
      acceptedCall? text = some (invocation, command [operand])) texts operands) :
    session.DoesAllOf palette text texts := by
  let recorded := session.after (.record invocation.normalized)
  have alike : recorded.Alike session :=
    ⟨(files_after_record _ _).symm, (dir_after_record _ _).symm⟩
  obtain ⟨after, output⟩ := oneByOne.output_afterLines palette calls alike
  rw [← afterLine_of_accepted accepted palette] at after
  refine ⟨after.files.symm, after.dir.symm, ?_⟩
  rw [written_of_accepted accepted, oneByOne.succeeds, List.append_nil, output]

/-- A line that makes several directories does what the lines do that make them one by one, and a line
that prints two files what the lines do that print one each. -/
theorem doesAllOf (session : Session) (palette : Palette) (text : String) :
    (∀ operands texts, operands ≠ [] → Text.words text = "mkdir" :: operands →
      List.Forall₂ (fun text operand => Text.words text = ["mkdir", operand]) texts operands →
      session.DoesAllOf palette text texts) ∧
    (∀ file other first second, Text.words text = ["cat", file, other] →
      Text.words first = ["cat", file] → Text.words second = ["cat", other] →
      session.DoesAllOf palette text [first, second]) := by
  constructor
  · intro operands texts notNil calls called
    have accepted := acceptedCall?_of_words .mkdir calls (if_neg notNil)
    refine doesAllOf_of_oneByOne Command.oneByOne_mkdir session palette accepted ?_
    exact called.imp fun text operand words => ⟨_, acceptedCall?_of_words .mkdir words rfl⟩
  · intro file other first second calls callsFirst callsSecond
    have accepted := acceptedCall?_of_words .cat calls rfl
    refine doesAllOf_of_oneByOne Command.oneByOne_cat session palette accepted ?_
    exact .cons ⟨_, acceptedCall?_of_words .cat callsFirst rfl⟩
      (.cons ⟨_, acceptedCall?_of_words .cat callsSecond rfl⟩ .nil)

end Session

/-- One target is made inside of the one before it, one is there already, and two cannot be made or
read. -/
theorem doesAllOf_oneDirectory :
    let session : Session := ⟨oneDirectory, ⟨.ofString "/", none⟩, {}⟩
    session.DoesAllOf .plain "mkdir a b b/c x/y" ["mkdir a", "mkdir b", "mkdir b/c", "mkdir x/y"] ∧
      session.DoesAllOf .colored "cat a b" ["cat a", "cat b"] := by
  intro session
  have made := (session.doesAllOf .plain "mkdir a b b/c x/y").1 ["a", "b", "b/c", "x/y"]
    ["mkdir a", "mkdir b", "mkdir b/c", "mkdir x/y"] (by decide) (by decide +kernel)
    (.cons (by decide +kernel) (.cons (by decide +kernel)
      (.cons (by decide +kernel) (.cons (by decide +kernel) .nil))))
  have printed := (session.doesAllOf .colored "cat a b").2 "a" "b" "cat a" "cat b"
    (by decide +kernel) (by decide +kernel) (by decide +kernel)
  exact ⟨made, printed⟩

end LineShell
