import LineShell.Path.Normal
import LineShell.FileSystem.Basic
import LineShell.FileSystem.Fault

/-!
# Looking up a path

A lookup walks from a directory along the steps of a path. Each step needs a directory to start
from, so that also `.` and a trailing slash ask for one. A link is replaced by the steps of its
target; whether this happens to a link at the end of the path too is up to the caller. A lookup
finds a location where an entry stands, or a vacant one in a directory that is there. A name that
no entry can have is refused.

The number of links that one lookup follows is bounded, and this alone makes lookups end: between
two links each step of the walk uses up a step of the path.
-/

namespace LineShell

/-- The longest path that is looked up. -/
def maxPathLength : Nat := 4095

/-- The number of links that one lookup follows. -/
def maxLinks : Nat := 40

/-- What a lookup does at the end of a path. -/
inductive LastStep
  /-- A link at the end is followed. -/
  | follow
  /-- A link at the end is what the lookup finds. -/
  | keep
  /-- A link at the end is followed, to write to a file: a trailing slash is refused. -/
  | write
  deriving DecidableEq, Repr

/-- The path that spells a location. -/
def Path.ofLocation (loc : Location) : Path :=
  ofSteps true (loc.reverse.map .down)

namespace FileSystem

/-- The walk from a location along steps. At a link it goes on with `jump`, from where the link's
target starts and along the target's steps and those that are left. -/
def walk (fs : FileSystem) (last : LastStep)
    (jump : Location → List Path.Step → Except Fault Location) :
    Location → List Path.Step → Except Fault Location
  | loc, [] => .ok loc
  | loc, step :: rest =>
    match fs.entry? loc with
    | none => .error (.refused .notFound)
    | some .directory =>
      match step with
      | .empty | .here => fs.walk last jump loc rest
      | .up => fs.walk last jump loc.tail rest
      | .down name =>
        if last = .write ∧ rest ≠ [] ∧ ∀ other ∈ rest, other = .empty then
          .error (.refused .isADirectory)
        else if !name.isValid then .error (.refused .nameTooLong)
        else
          match fs.entry? (name :: loc) with
          | none => if rest = [] then .ok (name :: loc) else .error (.refused .notFound)
          | some (.link target) =>
            if rest = [] ∧ last = .keep then .ok (name :: loc)
            else jump (if target.isAbsolute then [] else loc) (target.steps ++ rest)
          | some _ => fs.walk last jump (name :: loc) rest
    | some _ => .error (.refused .notADirectory)

/-- The walk from a location along steps that follows at most the given number of links. -/
def walkLinks (fs : FileSystem) (last : LastStep) :
    Nat → Location → List Path.Step → Except Fault Location
  | 0 => fs.walk last fun _ _ => .error (.refused .tooManyLinks)
  | links + 1 => fs.walk last (fs.walkLinks last links)

/-- Whether a path can be looked up at all. -/
def checkPath (path : Path) : Except Fault Unit :=
  if 0 ∈ path.bytes then .error .zeroByte
  else if path.bytes = [] then .error (.refused .notFound)
  else if maxPathLength < path.bytes.length then .error (.refused .nameTooLong)
  else .ok ()

/-- The location that a path leads to; a relative path starts at `start`. -/
def locateFrom (fs : FileSystem) (start : Location) (path : Path) (last : LastStep) :
    Except Fault Location := do
  checkPath path
  fs.walkLinks last maxLinks (if path.isAbsolute then [] else start) path.steps

/-- The location that an absolute path leads to. -/
def locate (fs : FileSystem) (path : Path) (last : LastStep) : Except Fault Location :=
  fs.locateFrom [] path last

/-- Where a path leads to and what stands there; there has to be something. -/
def findFrom (fs : FileSystem) (start : Location) (path : Path) (last : LastStep) :
    Except Fault (Location × Entry) := do
  let loc ← fs.locateFrom start path last
  match fs.entry? loc with
  | some found => .ok (loc, found)
  | none => .error (.refused .notFound)

/-- Where an absolute path leads to and what stands there. -/
def find (fs : FileSystem) (path : Path) (last : LastStep) : Except Fault (Location × Entry) :=
  fs.findFrom [] path last

/-- Whether a path leads to something. -/
def isPresent (fs : FileSystem) (path : Path) : Bool :=
  (fs.find path .follow).isOk

/-- Whether a path leads to a directory. -/
def isDirectory (fs : FileSystem) (path : Path) : Bool :=
  match fs.find path .follow with
  | .ok (_, .directory) => true
  | _ => false

/-- The location that a path leads to, if the path that spells it can itself be looked up. -/
def canonical (fs : FileSystem) (path : Path) : Except Fault Location := do
  let (loc, _) ← fs.find path .follow
  checkPath (.ofLocation loc)
  return loc

/-- Whether two paths lead to the same location. -/
def sameFile (fs : FileSystem) (a b : Path) : Bool :=
  match fs.canonical a, fs.canonical b with
  | .ok locA, .ok locB => locA = locB
  | _, _ => false

end FileSystem

end LineShell
