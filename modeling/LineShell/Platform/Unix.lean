import LineShell.LogFilter
import LineShell.Platform
import LineShell.Text.Backspace
import LineShell.Text.ControlSequence
import LineShell.Text.Lines

/-!
# The usual platform

A standard input that is no terminal is read line by line, and backspaces in a line are carried out.
The environment names the home directory, tells whether the terminal shows colours, and can change
what is shown of the log.
-/

namespace LineShell

/-- The codes that terminals take. -/
def Styling.ansi : Styling where
  red := "\x1B[31m"
  yellow := "\x1B[33m"
  cyan := "\x1B[36m"
  gray := "\x1B[38;2;128;128;128m"
  bold := "\x1B[1m"
  reset := "\x1B[0m"

namespace Palette

/-- The palette that colours text. -/
def colored : Palette := styled .ansi

/-- The lower case of a text as far as it is made of ASCII letters. Besides the capitals of ASCII
these are the Kelvin sign and the dotted capital I. -/
def lowerAscii (text : List Char) : List Char :=
  text.flatMap fun c =>
    if c = '\u212A' then ['k']
    else if c = '\u0130' then ['i', '\u0307']
    else [c.toLower]

/-- Parts of the names of terminals that show colours. -/
def colorTerminals : List String :=
  ["xterm-truecolor", "konsole", "tmux", "screen-truecolor", "alacritty", "kitty", "terminator",
   "terminology", "eterm", "rxvt-unicode", "xterm-ghostty", "vte", "termious", "256", "color",
   "ansi", "xterm", "screen"]

/-- The names of programs whose windows show colours. -/
def colorPrograms : List String :=
  ["iTerm.app", "Apple_Terminal", "Hyper"]

/-- Whether the value of a variable satisfies a test; a variable that is not set satisfies none. -/
def Environment.passes (env : Environment) (name : String) (test : String → Bool) : Bool :=
  (env name).any test

/-- Whether the environment calls for colours: it must not forbid them, and it must name a terminal
or program that shows them, or ask for them. -/
def wantsColor (env : Environment) : Bool :=
  let holds (part text : String) : Bool := Text.occursIn part.toList text.toList
  if (env "NO_COLOR").isSome || env.passes "CLICOLOR" (· = "0") then false
  else
    env.passes "COLORTERM" (fun value => holds "truecolor" value || holds "24bit" value) ||
    env.passes "TERM" (fun value =>
      colorTerminals.any fun part => Text.occursIn part.toList (lowerAscii value.toList)) ||
    env.passes "TERM_PROGRAM" colorPrograms.contains ||
    env.passes "CLICOLOR_FORCE" (· = "1")

/-- The palette for a terminal with the given environment. -/
def ofEnvironment (env : Environment) : Palette :=
  if wantsColor env then colored else plain

end Palette

/-- How a log line is written where there is no terminal: without control sequences, and with an
indent after each line feed. -/
def LogLine.written (line : LogLine) : String :=
  let indented := line.render.toList.flatMap fun c => if c = '\n' then "\n    ".toList else [c]
  Text.withoutSequences (String.ofList (indented ++ ['\n']))

namespace Platform

open Palette (Environment)

/-- The home directory that the environment names, or that of the user's account. -/
def homeDirectory (account : Option Path) (env : Environment) : Option Path :=
  match env "HOME" with
  | some home => if home = "" then account else some (Path.ofString home)
  | none => account

/-- What the log shows: lines of a level and those that matter more, unless the environment says
otherwise; and the complaints about what it says. -/
def logFilter (level : Level) (env : Environment) : LogFilter × List String :=
  match env "RUST_LOG" with
  | some written => (LogFilter.ofLevel level).adjust written
  | none => (.ofLevel level, [])

/-- The log as it is shown, after the complaints about its filter. -/
def showLog (level : Level) (env : Environment) (log : List LogLine) : Bytes :=
  let (filter, complaints) := logFilter level env
  Text.encodeLines complaints ++
    (log.filter filter.wants).flatMap fun line => Text.encode line.written

/-- Terminals on which lines cannot be edited. -/
def plainTerminals : List String :=
  ["dumb", "cons25", "emacs"]

/-- Whether prompts are written although the input is no terminal. -/
def showsPrompt (env : Environment) : Bool :=
  env.passes "TERM" fun name => plainTerminals.contains (name.map Char.toLower)

/-- What comes of reading a line with the given bytes. A backspace that would cut a character in two
ends the process. -/
def readLine (bytes : Bytes) : Reading :=
  match (Text.decode? bytes).map Text.applyBackspaces? with
  | none => .refused (.failed .notText)
  | some none => .aborted "a backspace would cut a character in two"
  | some (some line) => .line line

/-- The usual platform, for a user whose account has the given home directory. -/
def unix (account : Option Path) : Platform where
  home := homeDirectory account
  styling env := (Palette.ofEnvironment env).styling
  log := showLog
  openEditor _ := .ok ()
  handleInterrupts := .ok ()
  prompt env text := if showsPrompt env then Text.encode text else []
  readings _ stdin := (Text.lines 0x0A 0x0D stdin).map readLine

end Platform

end LineShell
