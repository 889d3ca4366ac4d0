import LineShell.Path.Normal
import LineShell.Path.Home
import LineShell.FileSystem.Lookup

/-!
# The working directory

The directory that operands are relative to. It is kept as a path: entering a directory through a
link and leaving it again by `..` leads back to where the link is. Operands become absolute normal
paths without a look at the files; only to enter a directory must it be there.
-/

namespace LineShell

/-- Where a session works. -/
structure WorkingDirectory where
  /-- The path of the directory. -/
  current : Path
  /-- The home directory, if there is one. -/
  home : Option Path
  deriving DecidableEq, Repr, Inhabited

namespace WorkingDirectory

/-- The working directory at a path, which is relative to the directory of the process. If there is
no directory, the normal form of the path is given back. -/
def start (fs : FileSystem) (process : Path) (home : Option Path) (path : Path) :
    Except Path WorkingDirectory :=
  let current := (process.join path).normalize
  if fs.isDirectory current then .ok ⟨current, home⟩ else .error current

/-- The normal path that an operand denotes. -/
def resolve (dir : WorkingDirectory) (operand : String) : Path :=
  (dir.current.join (Path.expandHome dir.home operand)).normalize

/-- The working directory after entering the directory at a path, if one is there. -/
def enter (dir : WorkingDirectory) (fs : FileSystem) (path : Path) :
    Except Fault WorkingDirectory :=
  let target := (dir.current.join path).normalize
  if fs.isDirectory target then .ok { dir with current := target }
  else .error (.described .notFound s!"{target.shown}: No such directory")

end WorkingDirectory

end LineShell
