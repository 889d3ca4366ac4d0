import LineShell.Proofs.Line
import LineShell.Proofs.Text.Words

/-!
# What the history holds

A session lives on as it reads lines and as its files are changed from outside. Its history is that
of the start and the normal forms of the lines that were carried out, in their order
(`entries_afterTurns`). Whether a command fails, what the files are and how much of the output is
taken makes no difference to it.
-/

namespace LineShell

/-- What can happen to a session from one moment to the next. -/
inductive Turn
  /-- It reads a line. -/
  | read (line : Line)
  /-- Its files are changed from outside. -/
  | change (files : FileSystem)

/-- The normal form of a line that is carried out. -/
def Turn.recorded? : Turn → Option String
  | .read line => (acceptedCall? line.text).map fun call => call.1.normalized
  | .change _ => none

namespace Session

/-- The session after a turn. -/
def afterTurn (session : Session) : Turn → Session
  | .read line => session.afterLine line
  | .change files => { session with files }

/-- The session after some turns. -/
def afterTurns (session : Session) (turns : List Turn) : Session :=
  turns.foldl afterTurn session

/-- A line that is carried out is never taken for a blank one. -/
private theorem entries_record {history : History} {text : String} {invocation : Invocation}
    (called : Invocation.ofLine? text = some invocation) :
    (history.record invocation.normalized).entries = history.entries ++ [invocation.normalized] := by
  rw [History.record, if_neg (Invocation.trim_normalized_ne_nil called)]

theorem entries_afterTurn (session : Session) (turn : Turn) :
    (session.afterTurn turn).history.entries =
      session.history.entries ++ turn.recorded?.toList := by
  cases turn with
  | change files => simp [afterTurn, Turn.recorded?]
  | read line =>
    rw [afterTurn, Turn.recorded?]
    cases accepted : acceptedCall? line.text with
    | none => simp [afterLine_of_refused accepted]
    | some call =>
      obtain ⟨invocation, command⟩ := call
      have called := (acceptedCall?_eq_some_iff.1 accepted).1
      rw [history_afterLine accepted, entries_record called]
      rfl

/-- The history after some turns is that before them and the normal forms of the lines among them
that were carried out, in their order. -/
theorem entries_afterTurns (session : Session) (turns : List Turn) :
    (session.afterTurns turns).history.entries =
      session.history.entries ++ turns.filterMap Turn.recorded? := by
  -- Each turn adds to the history that the turns before it have left.
  induction turns generalizing session with
  | nil => simp [afterTurns]
  | cons turn rest ih =>
    calc
      (session.afterTurns (turn :: rest)).history.entries
        = ((session.afterTurn turn).afterTurns rest).history.entries := rfl
      _ = session.history.entries ++ turn.recorded?.toList ++ rest.filterMap Turn.recorded? := by
        rw [ih, entries_afterTurn]
      _ = session.history.entries ++ (turn :: rest).filterMap Turn.recorded? := by
        rw [List.append_assoc, List.filterMap_cons]
        cases turn.recorded? with
        | none => rfl
        | some entry => rfl

end Session

end LineShell
