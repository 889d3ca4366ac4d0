import LineShell.Proofs.Path.Reading

/-!
# The form of normal paths

A normal path is the root with names behind it, or `.` alone, or `..` some times with names behind
that (`HasNormalForm`). These are the paths that are written from a stack with names on top of `..`
(`hasNormalForm_iff`). So every normal form looks like this, and every path that looks like this is
normal already (`takesNormalForm`).

A path is continued from its stack, and the normal form has the same stack. So the normal form of a path
can be continued in place of the path (`normalize_normalize_join`).
-/

namespace LineShell.Path

/-- The forms of normal paths from the root, and of relative ones. A name is not empty, it is neither
`.` nor `..`, and there is no slash in it. -/
inductive HasNormalForm : Bool → Path → Prop
  /-- The root, and names behind it. -/
  | fromRoot {names : List Name} : (∀ name ∈ names, name.IsStep) →
    HasNormalForm true ⟨slash :: [slash].intercalate names⟩
  /-- `.` alone. -/
  | here : HasNormalForm false ⟨[dot]⟩
  /-- `..` any number of times, and any names behind that, but not nothing at all. -/
  | fromHere {ups : Nat} {names : List Name} : (∀ name ∈ names, name.IsStep) →
    List.replicate ups [dot, dot] ++ names ≠ [] →
    HasNormalForm false ⟨[slash].intercalate (List.replicate ups [dot, dot] ++ names)⟩

variable {absolute : Bool} {path : Path}

/-- Behind a slash that another one follows, or nothing, there is an empty step. -/
theorem empty_mem_tail_steps {front more : Bytes} (wasted : ∀ byte ∈ more.head?, byte = slash) :
    Step.empty ∈ (Path.mk (front ++ slash :: more)).steps.tail := by
  have behind : Step.empty ∈ (Path.mk more).steps := by
    cases more with
    | nil => exact List.mem_singleton_self _
    | cons first rest =>
      obtain rfl : first = slash := wasted first rfl
      have starts : (Path.mk (slash :: rest)).isAbsolute = true := rfl
      exact List.mem_of_mem_head? (head?_steps starts)
  have notNil : (Path.mk front).steps ≠ [] := by simp [steps]
  rw [steps_append_slash_cons, List.tail_append_of_ne_nil notNil]
  exact List.mem_append_right _ behind

/-- How a stack with names on top of `..` is written. -/
theorem Stack.path_mk (absolute : Bool) (ups : Nat) (names : List Name) :
    Stack.path ⟨absolute, names.reverse.map .down ++ List.replicate ups .up⟩ =
      let pieces := List.replicate ups [dot, dot] ++ names
      if absolute then ⟨slash :: [slash].intercalate pieces⟩
      else if pieces = [] then ⟨[dot]⟩
      else ⟨[slash].intercalate pieces⟩ := by
  -- A stack has its last step first, and a path its first one.
  have inOrder : (names.reverse.map Step.down ++ List.replicate ups Step.up).reverse =
      List.replicate ups Step.up ++ names.map Step.down := by
    rw [List.reverse_append, List.reverse_replicate, List.map_reverse, List.reverse_reverse]
  have written : (List.replicate ups Step.up ++ names.map Step.down).map Step.toBytes =
      List.replicate ups [dot, dot] ++ names := by
    rw [List.map_append, List.map_replicate, List.map_map]
    exact congrArg _ (List.map_id names)
  have nothing : List.replicate ups Step.up ++ names.map Step.down = [] ↔
      List.replicate ups [dot, dot] ++ names = [] := by
    simp
  rw [Stack.path, ofSteps, inOrder, written]
  simp only [nothing]

/-- The paths that have the form of normal paths are written from stacks with names on top of `..`. -/
theorem hasNormalForm_iff :
    HasNormalForm absolute path ↔
      ∃ stack : Stack, stack.IsReduced ∧ stack.absolute = absolute ∧ stack.path = path := by
  constructor
  · intro form
    cases form with
    | @fromRoot names areSteps =>
      refine ⟨⟨true, names.reverse.map .down ++ List.replicate 0 .up⟩, ?_, rfl, ?_⟩
      · exact ⟨names.reverse, 0, by simpa using areSteps, rfl, fun _ => rfl⟩
      · exact Stack.path_mk true 0 names
    | here => exact ⟨⟨false, []⟩, ⟨[], 0, nofun, rfl, nofun⟩, rfl, rfl⟩
    | @fromHere ups names areSteps something =>
      refine ⟨⟨false, names.reverse.map .down ++ List.replicate ups .up⟩, ?_, rfl, ?_⟩
      · exact ⟨names.reverse, ups, by simpa using areSteps, rfl, nofun⟩
      · rw [Stack.path_mk false ups names]
        exact if_neg something
  · rintro ⟨⟨absolute, steps⟩, ⟨names, ups, areSteps, spelled, atRoot⟩, rfl, rfl⟩
    -- The names on the stack are those of the path from its end.
    obtain rfl : steps = names.reverse.reverse.map .down ++ List.replicate ups .up := by
      rw [List.reverse_reverse]
      exact spelled
    have areSteps : ∀ name ∈ names.reverse, Name.IsStep name := by simpa using areSteps
    rw [Stack.path_mk]
    cases absolute with
    | true =>
      obtain rfl : ups = 0 := atRoot rfl
      exact .fromRoot areSteps
    | false =>
      by_cases nothing : List.replicate ups [dot, dot] ++ names.reverse = []
      · simp only [nothing]
        exact .here
      · simp only [nothing]
        exact .fromHere areSteps nothing

theorem hasNormalForm_normalize (path : Path) : HasNormalForm path.isAbsolute path.normalize :=
  hasNormalForm_iff.2
    ⟨path.stack, isReduced_stack path, absolute_stack path, (normalize_eq_path_stack path).symm⟩

namespace HasNormalForm

variable (form : HasNormalForm absolute path)

include form

/-- A path that has the form of a normal path is normal. -/
theorem normalize_eq : path.normalize = path := by
  obtain ⟨stack, reduced, -, rfl⟩ := hasNormalForm_iff.1 form
  rw [normalize_eq_path_stack, stack_path reduced]

/-- Each slash of a normal path stands before a step, but for that of the root alone. -/
theorem eq_root {front more : Bytes} (cut : path.bytes = front ++ slash :: more)
    (wasted : ∀ byte ∈ more.head?, byte = slash) : path.bytes = [slash] := by
  have empty : Step.empty ∈ path.steps.tail := by
    obtain ⟨bytes⟩ := path
    obtain rfl : bytes = front ++ slash :: more := cut
    exact empty_mem_tail_steps wasted
  obtain ⟨⟨absolute, steps⟩, reduced, rfl, rfl⟩ := hasNormalForm_iff.1 form
  by_cases nothing : steps = []
  · subst nothing
    cases absolute with
    | true => rfl
    | false => cases empty
  · -- Behind the slash at the root there are the steps of the stack, and none of these is empty.
    rw [steps_path reduced nothing] at empty
    have left : Step.empty ∈ steps.reverse := by
      cases absolute with
      | true => exact empty
      | false => exact List.mem_of_mem_tail empty
    cases reduced.moves _ (List.mem_reverse.1 left)

end HasNormalForm

/-- What the normal form of a path is like. -/
structure TakesNormalForm (path : Path) : Prop where
  /-- It starts at the root if the path does. -/
  isAbsolute_eq : path.normalize.isAbsolute = path.isAbsolute
  /-- It has one of the forms of normal paths. -/
  form : HasNormalForm path.isAbsolute path.normalize
  /-- The path is left as it is exactly if it has one of these forms itself. -/
  unchanged_iff : path.normalize = path ↔ ∃ absolute, HasNormalForm absolute path
  /-- So nothing changes when the normal form is taken again. -/
  idempotent : path.normalize.normalize = path.normalize
  /-- No slash follows another one. -/
  notDoubled : ¬ [slash, slash] <:+: path.normalize.bytes
  /-- No slash is at the end, but for that of the root alone. -/
  notTrailing : path.normalize.bytes.getLast? = some slash → path.normalize.bytes = [slash]

/-- Every path takes its normal form, whatever it is made of. -/
theorem takesNormalForm (path : Path) : TakesNormalForm path where
  isAbsolute_eq := by rw [← absolute_stack, stack_normalize, absolute_stack]
  form := hasNormalForm_normalize path
  unchanged_iff := by
    constructor
    · intro unchanged
      have form := hasNormalForm_normalize path
      rw [unchanged] at form
      exact ⟨path.isAbsolute, form⟩
    · rintro ⟨absolute, form⟩
      exact form.normalize_eq
  idempotent := (hasNormalForm_normalize path).normalize_eq
  notDoubled := by
    rintro ⟨front, rest, cut⟩
    have cut : path.normalize.bytes = front ++ slash :: slash :: rest := by simpa using cut.symm
    have root := (hasNormalForm_normalize path).eq_root cut (by simp)
    -- The root is a single slash.
    have lengths := congrArg List.length (cut.symm.trans root)
    simp only [List.length_append, List.length_cons, List.length_nil] at lengths
    omega
  notTrailing trailing := by
    obtain ⟨front, cut⟩ := List.getLast?_eq_some_iff.1 trailing
    exact (hasNormalForm_normalize path).eq_root cut nofun

example : (ofString "/../a/./b//").normalize = ofString "/a/b" ∧
    (ofString "a/../../b/").normalize = ofString "../b" ∧
    (ofString "a/..").normalize = ofString "." := by
  decide +kernel

/-! ## Continued normal forms -/

/-- The normal form of a path can be continued in place of the path, by any path: one that goes up takes
the same names off, and an absolute one starts over. -/
theorem normalize_normalize_join (path next : Path) :
    (path.normalize.join next).normalize = (path.join next).normalize ∧
      (next.isAbsolute = true → path.join next = next) := by
  constructor
  · have sameStack : (path.normalize.join next).stack = (path.join next).stack := by
      rw [stack_join, stack_normalize, ← stack_join]
    rw [normalize_eq_path_stack, sameStack, ← normalize_eq_path_stack]
  · intro starts
    rw [join, if_pos starts]

/-- What goes up piles up behind what a relative path has left, which may be nothing but `.`. -/
theorem normalize_normalize_join_upward :
    let path : Path := .ofString "./a//.."
    let next : Path := .ofString "../b/../../c/"
    path.normalize = .ofString "." ∧ (path.normalize.join next).normalize = .ofString "../../c" ∧
      (path.join next).normalize = .ofString "../../c" ∧ (Path.ofString "/c/").isAbsolute = true ∧
      path.join (.ofString "/c/") = .ofString "/c/" := by
  intro path next
  have joined : (path.join next).normalize = .ofString "../../c" := by decide +kernel
  have starts : (Path.ofString "/c/").isAbsolute = true := by decide +kernel
  exact ⟨by decide +kernel, (normalize_normalize_join path next).1.trans joined, joined, starts,
    (normalize_normalize_join path _).2 starts⟩

end LineShell.Path
