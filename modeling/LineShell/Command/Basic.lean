import LineShell.Command.Builtin

/-!
# Well-formed commands

A command with the operands that it needs, in the roles that they have. Operands are checked once,
when the command is read; what is read can be carried out, and no later step looks at the shape of
operands again.
-/

namespace LineShell

/-- A built-in command with its operands. -/
inductive Command
  /-- Prints the contents of files. -/
  | cat (files : List String)
  /-- Enters a directory, or the home directory. -/
  | cd (directory : Option String)
  /-- Copies a file, or a tree. -/
  | cp (recursive : Bool) (source destination : String)
  /-- Prints words. -/
  | echo (words : List String)
  /-- Ends the session. -/
  | exit
  /-- Prints how commands are used. -/
  | help
  /-- Prints the history. -/
  | history
  /-- Prints the entries of the working directory. -/
  | ls (reversed : Bool)
  /-- Makes directories. -/
  | mkdir (directories : List String)
  /-- Prints the working directory. -/
  | pwd
  /-- Removes a file. -/
  | rm (file : String)
  /-- Removes an empty directory. -/
  | rmdir (directory : String)
  /-- Removes the empty directories in the working directory. -/
  | rmdirAll
  /-- Makes an empty file. -/
  | touch (file : String)
  deriving DecidableEq, Repr

/-- Why operands do not fit a command. -/
inductive UsageError
  /-- The command takes fewer operands. -/
  | tooMany (command : Builtin)
  /-- The command takes one operand only. -/
  | onlyOneOperand (command : Builtin)
  /-- The command takes one file only. -/
  | onlyOneFile (command : Builtin)
  /-- The command needs an operand. -/
  | missingOperand (command : Builtin)
  /-- The command needs a file. -/
  | missingFile (command : Builtin)
  /-- The command needs at least one operand. -/
  | noOperands (command : Builtin)
  /-- The command takes one or two files. -/
  | notOneOrTwo (command : Builtin)
  /-- The command takes no flag but `-r`. -/
  | onlyRecursive (command : Builtin)
  /-- The flag `-r` stands after the first operand. -/
  | lateRecursive (command : Builtin)
  /-- There is a source and no destination. -/
  | missingDestination (command : Builtin) (source : String)
  deriving DecidableEq, Repr

/-- How operands that do not fit are reported. -/
def UsageError.message : UsageError → String
  | tooMany command => s!"{command.name}: too many arguments"
  | onlyOneOperand command =>
    s!"{command.name}: too many arguments (currently only supports one argument)"
  | onlyOneFile command => s!"{command.name}: too many arguments (currently only supports one file)"
  | missingOperand command => s!"{command.name}: missing operand"
  | missingFile command => s!"{command.name}: missing file operand"
  | noOperands command => s!"{command.name}: needs at least one argument"
  | notOneOrTwo command =>
    s!"{command.name}: invalid number of arguments (expected one or two files)"
  | onlyRecursive command => s!"{command.name}: invalid argument (currently only supports -r)"
  | lateRecursive command => s!"{command.name}: invalid argument (-r must come before the source)"
  | missingDestination command source =>
    s!"{command.name}: missing destination file operand after '{source}'"

namespace Command

/-- The flag that turns the order of a listing around and makes a copy take whole trees. -/
def recursiveFlag : String := "-r"

/-- The operand that stands for every empty directory. -/
def everyOperand : String := "*"

/-- Reads the operands of a command that takes none. -/
def readNone (builtin : Builtin) (command : Command) : List String → Except UsageError Command
  | [] => .ok command
  | _ => .error (.tooMany builtin)

/-- Reads the operands of a copy. -/
def readCopy : List String → Except UsageError Command
  | [] => .error (.missingFile .cp)
  | [only] =>
    if only = recursiveFlag then .error (.missingFile .cp)
    else .error (.missingDestination .cp only)
  | [first, second] =>
    if first = recursiveFlag then .error (.missingDestination .cp second)
    else if second = recursiveFlag then .error (.lateRecursive .cp)
    else .ok (.cp false first second)
  | [first, second, third] =>
    if second = recursiveFlag ∨ third = recursiveFlag then .error (.lateRecursive .cp)
    else if first = recursiveFlag then .ok (.cp true second third)
    else .error (.onlyRecursive .cp)
  | _ => .error (.tooMany .cp)

/-- Reads the operands of a command. -/
def read (builtin : Builtin) (operands : List String) : Except UsageError Command :=
  match builtin with
  | .cat =>
    match operands with
    | [_] | [_, _] => .ok (.cat operands)
    | _ => .error (.notOneOrTwo .cat)
  | .cd =>
    match operands with
    | [] => .ok (.cd none)
    | [directory] => .ok (.cd (some directory))
    | _ => .error (.tooMany .cd)
  | .cp => readCopy operands
  | .echo => .ok (.echo operands)
  | .exit => readNone .exit .exit operands
  | .help => readNone .help .help operands
  | .history => readNone .history .history operands
  | .ls =>
    match operands with
    | [] => .ok (.ls false)
    | [flag] => if flag = recursiveFlag then .ok (.ls true) else .error (.onlyRecursive .ls)
    | _ => .error (.onlyOneOperand .ls)
  | .mkdir => if operands = [] then .error (.noOperands .mkdir) else .ok (.mkdir operands)
  | .pwd => readNone .pwd .pwd operands
  | .rm =>
    match operands with
    | [] => .error (.missingOperand .rm)
    | [file] => .ok (.rm file)
    | _ => .error (.onlyOneFile .rm)
  | .rmdir =>
    match operands with
    | [] => .error (.missingOperand .rmdir)
    | [directory] => .ok (if directory = everyOperand then .rmdirAll else .rmdir directory)
    | _ => .error (.onlyOneOperand .rmdir)
  | .touch =>
    match operands with
    | [] => .error (.missingFile .touch)
    | [file] => .ok (.touch file)
    | _ => .error (.onlyOneFile .touch)

end Command

end LineShell
