import LineShell.Path.Basic

/-!
# Normal paths

The normal form of a path has no `.`, no doubled or trailing slash, and no `..` that could be
taken together with a name before it. It is found on the written path alone: the steps go onto a
stack, and `..` takes the last name off again. At the root there is nothing to take off and `..` is
dropped; on a relative path without a name before it `..` is kept.
-/

namespace LineShell.Path

/-- Puts a step onto the stack of steps so far, the last one first. -/
def pushStep (absolute : Bool) (stack : List Step) : Step → List Step
  | .empty | .here => stack
  | .down name => .down name :: stack
  | .up =>
    match stack with
    | .down _ :: below => below
    | _ => if absolute then stack else .up :: stack

/-- The steps that are left when each `..` has taken off the name before it. -/
def reduceSteps (absolute : Bool) (steps : List Step) : List Step :=
  (steps.foldl (pushStep absolute) []).reverse

/-- The path with the given steps; the relative path without steps is `.`. -/
def ofSteps (absolute : Bool) (steps : List Step) : Path :=
  let written := [slash].intercalate (steps.map Step.toBytes)
  if absolute then ⟨slash :: written⟩
  else if steps = [] then ⟨[dot]⟩
  else ⟨written⟩

/-- The normal form of a path. -/
def normalize (path : Path) : Path :=
  ofSteps path.isAbsolute (reduceSteps path.isAbsolute path.steps)

end LineShell.Path
