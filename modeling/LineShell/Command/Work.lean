import LineShell.FileSystem.Calls
import LineShell.Session

/-!
# Work

What a command does to one target is work: questions to the files, calls that change them, and what
it tells, until it is done or fails. Nothing is taken back by a failure. Work that fails late leaves
what it has done by then, so that a command does nothing when it fails only if all that can fail in
it comes before all that it changes.
-/

namespace LineShell

/-- How far work has come. -/
structure Progress where
  /-- The files. -/
  files : FileSystem
  /-- What has been done, in order. -/
  effects : List Effect

/-- How far work has come after one more effect. -/
def Progress.after (now : Progress) (effect : Effect) : Progress where
  files := match effect with
    | .store files => files
    | _ => now.files
  effects := now.effects ++ [effect]

/-- Work that ends well or with a failure, and with what it has done by then. -/
abbrev Work := EStateM Failure Progress

namespace Work

variable {α : Type}

/-- Does one thing. -/
def perform (effect : Effect) : Work Unit :=
  modify (·.after effect)

/-- Asks something that the files can always answer. -/
def ask (question : FileSystem → α) : Work α :=
  return question (← get).files

/-- Makes calls, and goes on if one is refused. -/
def attempt (calls : Calls α) : Work (Except Fault α) := do
  -- Calls that are refused leave what those before them have changed.
  let left (disk : Disk) : Work Unit :=
    if disk.touched then perform (.store disk.files) else pure ()
  match calls.run ⟨(← get).files, false⟩ with
  | .ok answer disk =>
    left disk
    return .ok answer
  | .error fault disk =>
    left disk
    return .error fault

/-- Makes calls, and fails if one is refused. -/
def require (calls : Calls α) (refuse : Fault → Failure) : Work α := do
  match ← attempt calls with
  | .ok answer => return answer
  | .error fault => throw (refuse fault)

/-- Goes on with a value that has to be known. -/
def known (value : Option α) (failure : Failure) : Work α :=
  match value with
  | some value => return value
  | none => throw failure

/-- Fails unless something holds. -/
def ensure (holds : Bool) (failure : Failure) : Work Unit :=
  if holds then pure () else throw failure

end Work

end LineShell
