import LineShell.Command.Builtin

/-!
# Log lines

What the program tells those who look after it, apart from its output. A line has a level, which
says how much it matters, and a topic, which says what part of the program it comes from. A filter
selects lines by both: it has a level for all lines and levels for the topics whose names begin in
a given way, and the longest beginning decides.
-/

namespace LineShell

/-- How much a log line matters, the most important level first. -/
inductive Level
  | error
  | warn
  | info
  | debug
  | trace
  deriving DecidableEq, Repr

namespace Level

/-- All levels, the most important first. -/
def all : List Level :=
  [error, warn, info, debug, trace]

/-- The name of a level. -/
def name : Level → String
  | error => "ERROR"
  | warn => "WARN"
  | info => "INFO"
  | debug => "DEBUG"
  | trace => "TRACE"

/-- The position of a level, the most important one first. -/
def rank : Level → Nat
  | error => 1
  | warn => 2
  | info => 3
  | debug => 4
  | trace => 5

end Level

/-- What a log line is about. -/
inductive Topic
  /-- The start and the end of the program. -/
  | program
  /-- The settings file. -/
  | settings
  /-- The copying of trees. -/
  | tree
  /-- The reading and refusing of lines. -/
  | session
  /-- The work of a command. -/
  | command (which : Builtin)
  deriving DecidableEq, Repr

/-- The name by which a log filter refers to a topic. -/
def Topic.name : Topic → String
  | program => "burrow::shell"
  | settings => "burrow::core::config::loader"
  | tree => "burrow::path::tree"
  | session => "burrow::core::interpreter"
  | command which => "burrow::core::commands::" ++ which.name

/-- A line of the log. -/
structure LogLine where
  /-- How much it matters. -/
  level : Level
  /-- What it is about. -/
  topic : Topic
  /-- What it says. -/
  text : String
  deriving DecidableEq, Repr

/-- How a log line is shown. -/
def LogLine.render (line : LogLine) : String :=
  s!"{line.level.name} {line.text}"

end LineShell
