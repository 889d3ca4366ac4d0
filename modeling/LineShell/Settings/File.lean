import LineShell.Settings.Basic
import LineShell.Text.Lines
import LineShell.Text.Words

/-!
# Settings files

A settings file has one assignment a line, `key = value`. Blank lines and those that begin with `#`
say nothing. A value may be wrapped in a pair of equal quotes, which keeps blanks at its ends. Lines
that are no valid assignment are left out, each with a warning, and of several assignments to one
setting the last one holds.
-/

namespace LineShell

namespace Assignment

/-- A value without the pair of equal quotes around it, if there is one. -/
def stripQuotes (value : List Char) : List Char :=
  match value with
  | [] => []
  | quote :: rest =>
    if (quote = '"' ∨ quote = '\x27') ∧ rest.getLast? = some quote then rest.dropLast else value

/-- Reads a word for yes or no; the case of ASCII letters does not matter. -/
def readSwitch? (value : String) : Option Bool :=
  let word := value.map Char.toLower
  if word ∈ ["on", "true", "yes"] then some true
  else if word ∈ ["off", "false", "no"] then some false
  else none

/-- The choice that a key and a value make. -/
def ofPair (key value : String) : Except SettingsError Assignment :=
  if key = "color" then
    match readSwitch? value with
    | some on => .ok (.color on)
    | none => .error (.invalidValue key value)
  else if key = "prompt" then .ok (.prompt value)
  else if key = "start_dir" then
    if value = "" then .error (.invalidValue key value) else .ok (.startDirectory value)
  else .error (.unknownKey key)

/-- The choice that a line makes, if it says anything. -/
def ofLine (line : List Char) : Except SettingsError (Option Assignment) :=
  let content := Text.trim line
  if content = [] ∨ content.head? = some '#' then .ok none
  else
    match content.dropWhile (· ≠ '=') with
    | [] => .error (.malformed (String.ofList content))
    | _ :: value =>
      let key := Text.trim (content.takeWhile (· ≠ '='))
      (ofPair (String.ofList key) (String.ofList (stripQuotes (Text.trim value)))).map some

end Assignment

namespace Settings

/-- Applies numbered lines to settings and collects the errors of lines that are left out. -/
def readLines : Settings → List (Nat × List Char) → Settings × List (Nat × SettingsError)
  | settings, [] => (settings, [])
  | settings, (number, line) :: rest =>
    match Assignment.ofLine line with
    | .ok none => settings.readLines rest
    | .ok (some assignment) => (settings.assign assignment).readLines rest
    | .error error =>
      let (final, errors) := settings.readLines rest
      (final, (number, error) :: errors)

/-- The settings of a file with the given text, and the errors with the numbers of their lines,
which start at one. -/
def ofText (text : String) : Settings × List (Nat × SettingsError) :=
  let numbered := (Text.lines '\n' '\r' text.toList).zipIdx.map fun (line, index) =>
    (index + 1, line)
  ({} : Settings).readLines numbered

end Settings

end LineShell
