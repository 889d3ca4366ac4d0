import LineShell.FileSystem.Planting
import LineShell.Program

/-!
# The command line

Runs the program on the arguments, the environment and the standard input of a process. Its tree of
files is its own: it begins with the directory that the process is started in and the home
directory, and it is gone when the process ends.
-/

namespace LineShell.Program

/-- The environment variables that a run depends on. -/
def environmentNames : List String :=
  ["HOME", "TERM", "RUST_LOG", "NO_COLOR", "CLICOLOR", "CLICOLOR_FORCE", "COLORTERM",
   "TERM_PROGRAM"]

/-- Reads the values of environment variables. -/
def readEnvironment (names : List String) : IO Palette.Environment := do
  let values ← names.mapM fun name => do pure (name, ← IO.getEnv name)
  pure fun name => (values.lookup name).join

/-- Reads what is left of a stream, after what has been read of it. -/
partial def readRest (stream : IO.FS.Stream) (bytes : ByteArray) : IO ByteArray := do
  let more ← stream.read 65536
  if more.isEmpty then pure bytes else readRest stream (bytes ++ more)

/-- Writes bytes to a stream. -/
def writeBytes (stream : IO.FS.Stream) (bytes : Bytes) : IO Unit := do
  stream.write ⟨bytes.toArray⟩
  stream.flush

/-- Runs the program as a process and gives its exit code. -/
def runProcess (arguments : List String) : IO UInt32 := do
  let environment ← readEnvironment environmentNames
  let directory := Path.ofString (← IO.currentDir).toString
  let stdin ← readRest (← IO.getStdin) .empty
  let home := (Platform.homeDirectory none environment).toList.map directory.join
  let files := FileSystem.withDirectories (directory :: home)
  let outcome := run { arguments, environment, directory, stdin := stdin.data.toList, files }
  writeBytes (← IO.getStdout) outcome.stdout
  writeBytes (← IO.getStderr) outcome.stderr
  pure outcome.exitCode.toUInt32

end LineShell.Program

/-- Runs the program. -/
def main (arguments : List String) : IO UInt32 :=
  LineShell.Program.runProcess arguments
