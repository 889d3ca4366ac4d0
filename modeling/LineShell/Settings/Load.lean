import LineShell.FileSystem.Operations
import LineShell.Log
import LineShell.Path.Home
import LineShell.Settings.File

/-!
# Loading settings

The settings file is the one that the command line names, or a file of a fixed name in the home
directory. The former has to be there; without the latter the settings are the usual ones.
-/

namespace LineShell

/-- Where settings are looked for. -/
structure SettingsSource where
  /-- The path of the file. -/
  path : Path
  /-- Whether the user has asked for this file. -/
  isExplicit : Bool
  deriving DecidableEq, Repr

namespace SettingsSource

/-- The name of the settings file in the home directory. -/
def fileName : Name := Text.encode ".burrowrc"

/-- Where settings are looked for, given the path that the command line names, if it does. -/
def choose (home : Option Path) (named : Option String) : Except SettingsError SettingsSource :=
  match named, home with
  | some text, _ => .ok ⟨Path.expandHome home text, true⟩
  | none, some home => .ok ⟨home.entry fileName, false⟩
  | none, none => .error .noHome

end SettingsSource

namespace Settings

/-- A line of the log about settings. -/
def logLine (level : Level) (text : String) : LogLine :=
  ⟨level, .settings, text⟩

/-- Reads the settings file, if it is there. Relative paths start at `start`. -/
def loadFrom (fs : FileSystem) (start : Location) (source : SettingsSource) :
    Except SettingsError Settings × List LogLine :=
  let shown := source.path.shown
  if !(fs.findFrom start source.path .follow).isOk then
    if source.isExplicit then (.error (.noFile source.path), [])
    else (.ok {}, [logLine .debug s!"no config at {shown}, using defaults"])
  else
    match fs.readFrom start source.path with
    | .error fault => (.error (.unreadable fault), [])
    | .ok contents =>
      match Text.decode? contents with
      | none => (.error (.unreadable .notText), [])
      | some text =>
        let (settings, errors) := ofText text
        let warnings := errors.map fun (number, error) =>
          logLine .warn s!"{shown}:{number}: {error.message}"
        (.ok settings, warnings ++ [logLine .debug s!"loaded config from {shown}"])

/-- Looks for the settings and reads them. -/
def load (fs : FileSystem) (start : Location) (home : Option Path) (named : Option String) :
    Except SettingsError Settings × List LogLine :=
  match SettingsSource.choose home named with
  | .ok source => loadFrom fs start source
  | .error .noHome =>
    (.ok {}, [logLine .warn "home directory not found, using default settings"])
  | .error error => (.error error, [])

end Settings

end LineShell
