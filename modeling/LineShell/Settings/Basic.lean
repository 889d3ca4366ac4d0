import LineShell.FileSystem.Fault
import LineShell.Path.Basic

/-!
# Settings

What a user can choose: whether there are colours, what stands after the directory in the prompt,
and where a session starts. Each line of a settings file assigns one of them.
-/

namespace LineShell

/-- The settings of the program. -/
structure Settings where
  /-- Whether colours may be used. -/
  color : Bool := true
  /-- The end of the prompt. -/
  prompt : String := "> "
  /-- The directory to start in, as it was written. -/
  startDirectory : Option String := none
  deriving DecidableEq, Repr, Inhabited

/-- One choice of a user. -/
inductive Assignment
  /-- Whether colours may be used. -/
  | color (on : Bool)
  /-- The end of the prompt. -/
  | prompt (text : String)
  /-- The directory to start in. -/
  | startDirectory (path : String)
  deriving DecidableEq, Repr

/-- Why there are no settings, or a line of them is left out. -/
inductive SettingsError
  /-- There is no home directory to look for the file in. -/
  | noHome
  /-- The file that was asked for is not there. -/
  | noFile (path : Path)
  /-- The file cannot be read. -/
  | unreadable (fault : Fault)
  /-- There is no setting of the name. -/
  | unknownKey (key : String)
  /-- The setting does not take the value. -/
  | invalidValue (key value : String)
  /-- The line is no assignment. -/
  | malformed (line : String)
  deriving DecidableEq, Repr

/-- How an error of the settings is reported. -/
def SettingsError.message : SettingsError → String
  | noHome => "Home directory not found"
  | noFile path => s!"Config file not found: {path.shown}"
  | unreadable fault => s!"IO error: {fault.message}"
  | unknownKey key => s!"Unknown setting: {key}"
  | invalidValue key value => s!"Invalid value for {key}: {value}"
  | malformed line => s!"Expected key = value, got: {line}"

/-- An error of the settings with all that is known of it. -/
def SettingsError.detailed : SettingsError → String
  | noHome => "HomeDirNotFound"
  | noFile path => s!"ConfigFileNotFound({Text.quoteBytes path.bytes})"
  | unreadable fault => s!"IoError({fault.detailed})"
  | unknownKey key => s!"UnknownKey({Text.quote key})"
  | invalidValue key value =>
    s!"InvalidValue \x7b key: {Text.quote key}, value: {Text.quote value} \x7d"
  | malformed line => s!"Malformed({Text.quote line})"

/-- The settings after one more choice. -/
def Settings.assign (settings : Settings) : Assignment → Settings
  | .color on => { settings with color := on }
  | .prompt text => { settings with prompt := text }
  | .startDirectory path => { settings with startDirectory := some path }

end LineShell
