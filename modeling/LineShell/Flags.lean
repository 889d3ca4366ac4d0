/-!
# Flags

The flags of the command line. Each has a short and a long spelling; one of them takes a value,
which is the next argument whatever it looks like. Arguments are read one after the other, and
those before a wrong one keep their effect.
-/

namespace LineShell

/-- The flags, in the order of their names. -/
inductive Flag
  /-- Takes the path of a settings file. -/
  | config
  | debug
  | help
  | quiet
  | version
  deriving DecidableEq, Repr

namespace Flag

/-- All flags, in ascending order of their names. -/
def all : List Flag :=
  [config, debug, help, quiet, version]

/-- The name of a flag. -/
def name : Flag → String
  | config => "config"
  | debug => "debug"
  | help => "help"
  | quiet => "quiet"
  | version => "version"

/-- The short spelling of a flag. -/
def short : Flag → String
  | config => "-c"
  | debug => "-d"
  | help => "-h"
  | quiet => "-q"
  | version => "-v"

/-- The long spelling of a flag. -/
def long (flag : Flag) : String :=
  "--" ++ flag.name

/-- What a flag is for. -/
def description : Flag → String
  | config => "Use an alternate config file"
  | debug => "Enable debug logging"
  | help => "Print this help message"
  | quiet => "Suppress warnings and key echoes"
  | version => "Show version information"

/-- Whether the next argument is the value of the flag. -/
def takesValue (flag : Flag) : Bool :=
  flag = config

/-- The flag that an argument spells. -/
def find? (argument : String) : Option Flag :=
  all.find? fun flag => argument = flag.short || argument = flag.long

end Flag

/-- Why an argument is wrong. -/
inductive FlagError
  /-- The argument spells no flag. -/
  | unknown (argument : String)
  /-- The flag needs a value and is the last argument. -/
  | missingValue (argument : String)
  deriving DecidableEq, Repr

/-- How a wrong argument is reported. -/
def FlagError.message : FlagError → String
  | unknown argument => s!"Unknown flag {argument}"
  | missingValue argument => s!"Flag {argument} requires a value"

/-- The flags that are set. -/
structure Flags where
  /-- The value of the flag that names a settings file. -/
  config : Option String := none
  /-- Whether the log tells more. -/
  debug : Bool := false
  /-- Whether help is asked for. -/
  help : Bool := false
  /-- Whether the program keeps quiet. -/
  quiet : Bool := false
  /-- Whether the version is asked for. -/
  version : Bool := false
  deriving DecidableEq, Repr, Inhabited

namespace Flags

/-- The flags with one more set. Only the flag that takes a value looks at the value. -/
def set (flags : Flags) (flag : Flag) (value : String) : Flags :=
  match flag with
  | .config => { flags with config := some value }
  | .debug => { flags with debug := true }
  | .help => { flags with help := true }
  | .quiet => { flags with quiet := true }
  | .version => { flags with version := true }

/-- The value of a flag; a flag without a value of its own has the value `true` when it is set. -/
def value? (flags : Flags) (flag : Flag) : Option String :=
  let whenSet (isSet : Bool) : Option String := if isSet then some "true" else none
  match flag with
  | .config => flags.config
  | .debug => whenSet flags.debug
  | .help => whenSet flags.help
  | .quiet => whenSet flags.quiet
  | .version => whenSet flags.version

/-- Sets the flags that arguments spell. At a wrong argument it stops and says why; the flags before
it stay set. -/
def parse : Flags → List String → Flags × Option FlagError
  | flags, [] => (flags, none)
  | flags, argument :: rest =>
    match Flag.find? argument with
    | none => (flags, some (.unknown argument))
    | some flag =>
      if flag.takesValue then
        match rest with
        | [] => (flags, some (.missingValue argument))
        | value :: rest => parse (flags.set flag value) rest
      else parse (flags.set flag "") rest

/-- A text filled up with spaces to the given length. -/
def padRight (width : Nat) (text : String) : String :=
  text ++ String.ofList (List.replicate (width - text.length) ' ')

/-- The line of the help text about a flag. -/
def helpLine (flag : Flag) : String :=
  let long := if flag.takesValue then flag.long ++ " <file>" else flag.long
  s!"  {flag.short}, {padRight 17 long} {flag.description}"

/-- The help text of the command line, line by line. -/
def helpText : List String :=
  ["Usage: burrow [OPTIONS]", "", "Options:"] ++ Flag.all.map helpLine

end Flags

end LineShell
