import LineShell.Text.Utf8

/-!
# Control sequences

Text that is sent to a terminal may hold sequences that the terminal obeys and does not show. Where
there is no terminal they are left out, and with them all controls but blanks. The sequences are
those of the standards ECMA-48 and ISO 2022: an escape alone, with parameters, with a string of its
own kind or with a string that a bell ends.
-/

namespace LineShell.Text

/-- What a terminal is in the middle of. -/
inductive TerminalMode
  /-- Text that it shows. -/
  | plain
  /-- An escape. -/
  | escape
  /-- An escape and intermediate characters. -/
  | escapeIntermediate
  /-- The beginning of a sequence with parameters. -/
  | controlEntry
  /-- The parameters of a sequence. -/
  | controlParameter
  /-- The intermediate characters of a sequence with parameters. -/
  | controlIntermediate
  /-- A sequence with parameters that makes no sense. -/
  | controlIgnored
  /-- The beginning of a string for the device. -/
  | deviceEntry
  /-- The parameters of a string for the device. -/
  | deviceParameter
  /-- The intermediate characters of a string for the device. -/
  | deviceIntermediate
  /-- A string for the device that makes no sense. -/
  | deviceIgnored
  /-- A string for the device. -/
  | deviceString
  /-- A string that is none of the others. -/
  | otherString
  /-- A command for the operating system. -/
  | systemString
  deriving DecidableEq, Repr

namespace TerminalMode

/-- Whether a mode ends at the eight-bit form of the end of a string. -/
def isClosable : TerminalMode → Bool
  | deviceIgnored | deviceString | otherString => true
  | _ => false

/-- Whether controls are obeyed within a mode. -/
def obeysControls : TerminalMode → Bool
  | plain | escape | escapeIntermediate | controlEntry | controlParameter | controlIntermediate
  | controlIgnored => true
  | _ => false

/-- The mode after an escape and one more character. -/
def afterEscape (code : Nat) : TerminalMode :=
  if code < 0x30 then escapeIntermediate
  else if code = 0x50 then deviceEntry
  else if code = 0x5B then controlEntry
  else if code = 0x5D then systemString
  else if code = 0x58 ∨ code = 0x5E ∨ code = 0x5F then otherString
  else plain

/-- The mode after a character from the space to the tilde. -/
def afterGraphic (mode : TerminalMode) (code : Nat) : TerminalMode :=
  match mode with
  | plain => plain
  | escape => afterEscape code
  | escapeIntermediate => if code < 0x30 then escapeIntermediate else plain
  | controlEntry =>
    if code < 0x30 then controlIntermediate else if code < 0x40 then controlParameter else plain
  | controlParameter =>
    if code < 0x30 then controlIntermediate
    else if code < 0x3C then controlParameter
    else if code < 0x40 then controlIgnored
    else plain
  | controlIntermediate =>
    if code < 0x30 then controlIntermediate else if code < 0x40 then controlIgnored else plain
  | controlIgnored => if code < 0x40 then controlIgnored else plain
  | deviceEntry =>
    if code < 0x30 then deviceIntermediate
    else if code < 0x40 then deviceParameter
    else deviceString
  | deviceParameter =>
    if code < 0x30 then deviceIntermediate
    else if code < 0x3C then deviceParameter
    else if code < 0x40 then deviceIgnored
    else deviceString
  | deviceIntermediate =>
    if code < 0x30 then deviceIntermediate
    else if code < 0x40 then deviceIgnored
    else deviceString
  | deviceIgnored | deviceString | otherString | systemString => mode

/-- The mode after a character of ASCII. An escape begins afresh anywhere, and two controls end
everything. -/
def after (mode : TerminalMode) (code : Nat) : TerminalMode :=
  if code = 0x1B then escape
  else if code = 0x18 ∨ code = 0x1A then plain
  else if code = 0x07 ∧ mode = systemString then plain
  else if code < 0x20 ∨ code = 0x7F then mode
  else mode.afterGraphic code

/-- The mode after a character beyond ASCII. One of its bytes may be the end of a string. -/
def afterWide (mode : TerminalMode) (c : Char) : TerminalMode :=
  if mode.isClosable ∧ 0x9C ∈ String.utf8EncodeChar c then plain else mode

/-- Whether a character of ASCII is shown. Blanks among the controls are, wherever controls are
obeyed. -/
def shows (mode : TerminalMode) (code : Nat) : Bool :=
  if 0x20 ≤ code then mode = plain && code ≠ 0x7F
  else mode.obeysControls && [0x09, 0x0A, 0x0C, 0x0D].contains code

end TerminalMode

/-- The characters of a text that are shown. Once one is, all that follow are until one would be
none in plain text; only then does the mode matter again, and that of before a run of shown
characters may still be in force. -/
def shownFrom (showing : Bool) (mode : TerminalMode) : List Char → List Char
  | [] => []
  | c :: rest =>
    let code := c.toNat
    if 0x7F < code then
      if showing ∨ mode = .plain then c :: shownFrom true .plain rest
      else shownFrom false (mode.afterWide c) rest
    else if (if showing then TerminalMode.plain else mode).shows code then
      c :: shownFrom true mode rest
    else
      shownFrom false (mode.after code) rest

/-- A text without control sequences and without controls other than blanks. -/
def withoutSequences (text : String) : String :=
  String.ofList (shownFrom false .plain text.toList)

end LineShell.Text
