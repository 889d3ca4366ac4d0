import LineShell.FileSystem.Fault
import LineShell.Log
import LineShell.Palette
import LineShell.Path.Basic

/-!
# Platforms

What the program is given by what it runs on and does not decide itself: where the user's home is,
how the terminal shows colours, how lines are read from the standard input, and what becomes of the
log. The program is written for any platform; what it relies on is said where a property of its runs
needs it.
-/

namespace LineShell

/-- The values of environment variables. -/
abbrev Palette.Environment := String → Option String

open Palette (Environment)

/-- Why no line can be read. -/
inductive ReadError
  /-- The input is at its end. -/
  | endOfInput
  /-- The user has interrupted the reading. -/
  | interrupted
  /-- The input cannot be read. -/
  | failed (fault : Fault)
  deriving DecidableEq, Repr

/-- How a reason for not reading a line is reported. -/
def ReadError.message : ReadError → String
  | endOfInput => "EOF"
  | interrupted => "Interrupted"
  | failed fault => fault.message

/-- A reason for not reading a line with all that is known of it. -/
def ReadError.detailed : ReadError → String
  | endOfInput => "Eof"
  | interrupted => "Interrupted"
  | failed fault => s!"Io({fault.detailed})"

/-- What comes of an attempt to read a line. -/
inductive Reading
  /-- A line. -/
  | line (text : String)
  /-- No line, for a reason that the program is told. -/
  | refused (why : ReadError)
  /-- The end of the process, with its last words. -/
  | aborted (report : String)
  deriving DecidableEq, Repr

/-- What the program runs on. -/
structure Platform where
  /-- The home directory of the user, if it is known. -/
  home : Environment → Option Path
  /-- The codes by which the terminal shows colours, if it does. -/
  styling : Environment → Option Styling
  /-- What is shown of the log, given the level that the program asks for. -/
  log : Level → Environment → List LogLine → Bytes
  /-- Whether lines can be read at all. -/
  openEditor : Environment → Except ReadError Unit
  /-- Whether interrupts can be handled. -/
  handleInterrupts : Except String Unit
  /-- What is written for a prompt. -/
  prompt : Environment → String → Bytes
  /-- What comes of the attempts to read a line of a standard input, in turn. After these the input
  is at its end. -/
  readings : Environment → Bytes → List Reading

end LineShell
