import LineShell.Platform.Unix
import LineShell.Program.Basic

/-!
# The program on the usual platform
-/

namespace LineShell.Program

/-- Runs the program for a user whose account names no home directory. -/
def run (input : Input) : Outcome :=
  runOn (.unix none) input

end LineShell.Program
