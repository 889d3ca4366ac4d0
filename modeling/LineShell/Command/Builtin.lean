/-!
# The built-in commands

The fixed table of commands: their names, how they are used and what they do, in the order of their
names. Names match exactly; there are no aliases or abbreviations.
-/

namespace LineShell

/-- The built-in commands, in the order of their names. -/
inductive Builtin
  | cat
  | cd
  | cp
  | echo
  | exit
  | help
  | history
  | ls
  | mkdir
  | pwd
  | rm
  | rmdir
  | touch
  deriving DecidableEq, Repr

namespace Builtin

/-- All built-in commands, in ascending order of their names. -/
def all : List Builtin :=
  [cat, cd, cp, echo, exit, help, history, ls, mkdir, pwd, rm, rmdir, touch]

/-- The word that calls the command. -/
def name : Builtin → String
  | cat => "cat"
  | cd => "cd"
  | cp => "cp"
  | echo => "echo"
  | exit => "exit"
  | help => "help"
  | history => "history"
  | ls => "ls"
  | mkdir => "mkdir"
  | pwd => "pwd"
  | rm => "rm"
  | rmdir => "rmdir"
  | touch => "touch"

/-- What follows the command word, as a synopsis. -/
def operands : Builtin → String
  | cat => " <file> [file]"
  | cd => " [directory]"
  | cp => " [-r] <source> <destination>"
  | echo => " [text...]"
  | exit | help | history | pwd => ""
  | ls => " [-r]"
  | mkdir => " <directory>..."
  | rm | touch => " <file>"
  | rmdir => " <directory|*>"

/-- One line on how the command is called. -/
def usage (command : Builtin) : String :=
  command.name ++ command.operands

/-- One line on what the command does. -/
def description : Builtin → String
  | cat => "prints the contents of one or two files"
  | cd => "changes the current directory (home when omitted)"
  | cp => "copies a file, or a directory tree with -r"
  | echo => "prints its arguments"
  | exit => "exits the shell"
  | help => "prints the list of supported commands"
  | history => "lists the commands entered this session"
  | ls => "lists the current directory (-r reverses the order)"
  | mkdir => "creates one or more directories"
  | pwd => "prints the current working directory"
  | rm => "removes a regular file"
  | rmdir => "removes an empty directory (* removes every empty one)"
  | touch => "creates an empty file if it does not exist"

/-- The command that a word calls. -/
def find? (word : String) : Option Builtin :=
  all.find? fun command => command.name = word

end Builtin

end LineShell
