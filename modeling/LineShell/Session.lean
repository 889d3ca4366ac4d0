import LineShell.Command.Failure
import LineShell.FileSystem.Basic
import LineShell.History
import LineShell.Log
import LineShell.Palette
import LineShell.WorkingDirectory

/-!
# Sessions and effects

A session is what later lines can see of earlier ones: the files, the working directory and the
history. What a line does is a list of effects, in the order in which they happen: changes of the
session, lines of the log, and text for the output.

The list says all that the line would do if its output can be written. A sink that takes no more
text cuts the list short: what comes after the text that does not fit never happens.
-/

namespace LineShell

/-- What is kept from line to line. -/
structure Session where
  /-- The files. -/
  files : FileSystem
  /-- The working directory. -/
  dir : WorkingDirectory
  /-- The lines accepted so far. -/
  history : History
  deriving Inhabited

/-- A piece of output. -/
inductive Segment
  /-- Output that is never coloured. -/
  | plain (bytes : Bytes)
  /-- The report of an error, on a line of its own. -/
  | report (error : CommandError)
  deriving DecidableEq

namespace Segment

/-- A line of output. -/
def line (text : String) : Segment :=
  .plain (Text.encode (text ++ "\n"))

/-- The bytes of a piece of output. -/
def render (palette : Palette) : Segment → Bytes
  | plain bytes => bytes
  | report error => Text.encode (palette.error error.message ++ "\n")

end Segment

/-- One thing that a line does. -/
inductive Effect
  /-- Adds to the history. -/
  | record (entry : String)
  /-- Tells the log. -/
  | note (line : LogLine)
  /-- Changes the files. -/
  | store (files : FileSystem)
  /-- Changes the working directory. -/
  | enter (dir : WorkingDirectory)
  /-- Writes to the output. -/
  | write (text : Segment)
  /-- Asks the output to pass on what it has taken. -/
  | flush

namespace Session

/-- The session after an effect. -/
def after (session : Session) : Effect → Session
  | .record entry => { session with history := session.history.record entry }
  | .store files => { session with files }
  | .enter dir => { session with dir }
  | .note _ | .write _ | .flush => session

end Session

/-- Where output goes. -/
structure Sink where
  /-- The number of bytes that it takes; without it, it takes any number. -/
  room : Option Nat
  /-- What it says when it takes no more. -/
  full : Fault
  /-- What it says when it is flushed, if that fails. -/
  flushFault : Option Fault

namespace Sink

/-- The sink that takes any output. -/
def unlimited : Sink where
  room := none
  full := .refused .other
  flushFault := none

/-- The sink after it has taken some bytes, if it takes them all. -/
def accept? (sink : Sink) (bytes : Bytes) : Option Sink :=
  match sink.room with
  | none => some sink
  | some size =>
    if bytes.length ≤ size then some { sink with room := some (size - bytes.length) } else none

/-- As many of the bytes as the sink takes. -/
def cut (sink : Sink) (bytes : Bytes) : Bytes :=
  match sink.room with
  | none => bytes
  | some size => bytes.take size

end Sink

/-- What has come of a list of effects. -/
structure Delivery where
  /-- The session. -/
  session : Session
  /-- The output. -/
  written : Bytes
  /-- The log. -/
  log : List LogLine
  /-- Why the output was cut short, if it was. -/
  fault : Option Fault
  /-- What the sink said when it was flushed, if that failed. What has been written is not lost by
  it, and the line goes on. -/
  unflushed : Option Fault

/-- Carries out effects until all have happened or the sink takes no more. -/
def deliver (palette : Palette) (sink : Sink) (session : Session) : List Effect → Delivery
  | [] => ⟨session, [], [], none, none⟩
  | .write text :: rest =>
    let bytes := text.render palette
    match sink.accept? bytes with
    | some left =>
      let later := deliver palette left session rest
      { later with written := bytes ++ later.written }
    | none => ⟨session, sink.cut bytes, [], some sink.full, none⟩
  | .flush :: rest =>
    let later := deliver palette sink session rest
    { later with unflushed := sink.flushFault }
  | .note line :: rest =>
    let later := deliver palette sink session rest
    { later with log := line :: later.log }
  | change :: rest => deliver palette sink (session.after change) rest

end LineShell
