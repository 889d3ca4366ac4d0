import LineShell.Proofs.Path.Location

/-!
# Reading a path step by step

Whatever is made of a path by its steps one after the other (`foldFrom`) is made of a path that
continues another one by going on from what the first path has left (`foldFrom_join`), as long as
empty steps change nothing.

The normal form is such a reading: the steps go onto a stack, and an absolute path starts with an
empty stack at the root. The stack that is left holds names on top of `..`, and no `..` at the root
(`isReduced_stack`). So the normal form is read back as the same stack (`stack_path`), and it can take
the place of the path in whatever continues it (`stack_normalize`).
-/

namespace LineShell.Path

/-! ## Paths that continue each other -/

/-- Takes the steps of a path one after the other. An absolute path starts over at the root. -/
def foldFrom {β : Type} (take : β → Step → β) (root : β) (path : Path) (start : β) : β :=
  path.steps.foldl take (if path.isAbsolute then root else start)

section Folding

variable {β : Type} {take : β → Step → β} {root : β}

theorem foldFrom_of_relative {path : Path} (relative : path.isAbsolute = false) (start : β) :
    path.foldFrom take root start = path.steps.foldl take start := by
  rw [foldFrom, relative]
  rfl

/-- What stands between two slashes is one step. -/
theorem foldFrom_piece {piece : Bytes} (notEmpty : piece ≠ []) (noSlash : slash ∉ piece) (start : β) :
    (Path.mk piece).foldFrom take root start = take start (Step.ofBytes piece) := by
  have relative : (Path.mk piece).isAbsolute = false := by
    obtain ⟨first, rest, rfl⟩ := List.exists_cons_of_ne_nil notEmpty
    rw [List.mem_cons, not_or] at noSlash
    simpa [isAbsolute] using Ne.symm noSlash.1
  rw [foldFrom_of_relative relative, steps, List.splitOn_eq_singleton noSlash]
  rfl

variable (still : ∀ place, take place .empty = place)

include still

/-- What continues a path goes on from what the path has left. -/
theorem foldFrom_join (path next : Path) (start : β) :
    (path.join next).foldFrom take root start =
      next.foldFrom take root (path.foldFrom take root start) := by
  obtain ⟨front⟩ := path
  obtain ⟨rest⟩ := next
  unfold join
  by_cases absolute : (Path.mk rest).isAbsolute = true
  · rw [if_pos absolute, foldFrom, foldFrom, if_pos absolute, if_pos absolute]
  have relative : (Path.mk rest).isAbsolute = false := by simpa using absolute
  rw [if_neg absolute, foldFrom_of_relative relative]
  -- The slash between the two is there already, or it is put there, or there is nothing before it.
  by_cases nothing : front = []
  · subst nothing
    have unmoved : (Path.mk []).foldFrom take root start = start := still start
    rw [if_pos (.inl rfl), List.nil_append, unmoved, foldFrom_of_relative relative]
  · have starts : ∀ more : Bytes, (Path.mk (front ++ more)).isAbsolute = (Path.mk front).isAbsolute := by
      intro more
      rw [isAbsolute, isAbsolute, List.head?_append_of_ne_nil _ nothing]
    by_cases slashed : front.getLast? = some slash
    · obtain ⟨before, rfl⟩ := List.getLast?_eq_some_iff.1 slashed
      have stays : ∀ place : β, List.foldl take place [.empty] = place := still
      rw [if_pos (.inr slashed), foldFrom, foldFrom, starts rest, List.append_assoc,
        List.singleton_append, steps_append_slash_cons, steps_append_slash, List.foldl_append,
        List.foldl_append, stays]
    · rw [if_neg (by simp [nothing, slashed]), foldFrom, foldFrom, starts (slash :: rest),
        steps_append_slash_cons, List.foldl_append]

/-- Empty steps can be left out. -/
theorem foldl_filter_pieces (pieces : List Bytes) (start : β) :
    ((pieces.filter (!·.isEmpty)).map Step.ofBytes).foldl take start =
      (pieces.map Step.ofBytes).foldl take start := by
  induction pieces generalizing start with
  | nil => rfl
  | cons piece rest ih =>
    by_cases empty : piece = []
    · subst empty
      rw [List.filter_cons_of_neg (by simp), List.map_cons, List.foldl_cons, ih]
      show _ = (rest.map Step.ofBytes).foldl take (take start .empty)
      rw [still]
    · rw [List.filter_cons_of_pos (by simpa using empty)]
      exact ih _

/-- A path that is continued by what stands between the slashes of a text goes on as that text does,
but for a slash at its start. -/
theorem foldFrom_foldl_entry (path : Path) (written : Bytes) (start : β) :
    (((written.splitOn slash).filter (!·.isEmpty)).foldl entry path).foldFrom take root start =
      (Path.mk written).steps.foldl take (path.foldFrom take root start) := by
  rw [steps, ← foldl_filter_pieces still]
  have pieces : ∀ piece ∈ (written.splitOn slash).filter (!·.isEmpty), piece ≠ [] ∧ slash ∉ piece := by
    intro piece mem
    obtain ⟨mem, notEmpty⟩ := List.mem_filter.1 mem
    exact ⟨by simpa using notEmpty, notMem_of_mem_splitOn _ _ mem⟩
  generalize (written.splitOn slash).filter (!·.isEmpty) = parts at pieces
  -- Each part continues the path that has been put together so far.
  induction parts generalizing path with
  | nil => rfl
  | cons piece rest ih =>
    obtain ⟨⟨notEmpty, noSlash⟩, later⟩ := List.forall_mem_cons.1 pieces
    rw [List.foldl_cons, ih _ later, entry, foldFrom_join still, foldFrom_piece notEmpty noSlash]
    rfl

end Folding

/-! ## The stack of a path -/

/-- What is left of the steps of a path. -/
structure Stack where
  /-- Whether they lead on from the root. -/
  absolute : Bool
  /-- The steps that are left, the last one first. -/
  steps : List Step

namespace Stack

/-- The stack after one more step. -/
def push (stack : Stack) (step : Step) : Stack :=
  { stack with steps := pushStep stack.absolute stack.steps step }

/-- The stack at the root. -/
def root : Stack :=
  ⟨true, []⟩

/-- The path that is written from a stack. -/
def path (stack : Stack) : Path :=
  ofSteps stack.absolute stack.steps.reverse

/-- Names stand on top of `..`, and there is no `..` at the root. -/
def IsReduced (stack : Stack) : Prop :=
  ∃ (names : List Name) (ups : Nat), (∀ name ∈ names, Name.IsStep name) ∧
    stack.steps = names.map .down ++ List.replicate ups .up ∧ (stack.absolute = true → ups = 0)

variable {stack : Stack}

@[simp]
theorem push_empty (stack : Stack) : stack.push .empty = stack :=
  rfl

/-- A step that is pushed onto the steps of a stack is pushed onto the stack. -/
theorem foldl_push (steps : List Step) (stack : Stack) : steps.foldl push stack =
    ⟨stack.absolute, steps.foldl (pushStep stack.absolute) stack.steps⟩ := by
  induction steps generalizing stack with
  | nil => rfl
  | cons step rest ih =>
    rw [List.foldl_cons, ih]
    rfl

theorem isReduced_root : root.IsReduced :=
  ⟨[], 0, nofun, rfl, fun _ => rfl⟩

theorem IsReduced.push (reduced : stack.IsReduced) {step : Step}
    (isStep : ∀ name, step = .down name → name.IsStep) : (stack.push step).IsReduced := by
  obtain ⟨names, ups, areSteps, spelled, atRoot⟩ := reduced
  cases step with
  | empty => exact ⟨names, ups, areSteps, spelled, atRoot⟩
  | here => exact ⟨names, ups, areSteps, spelled, atRoot⟩
  | down name =>
    refine ⟨name :: names, ups, ?_, ?_, atRoot⟩
    · exact List.forall_mem_cons.2 ⟨isStep name rfl, areSteps⟩
    · show Step.down name :: stack.steps = _
      rw [spelled]
      rfl
  | up =>
    cases names with
    | cons name below =>
      refine ⟨below, ups, (List.forall_mem_cons.1 areSteps).2, ?_, atRoot⟩
      show pushStep stack.absolute stack.steps .up = _
      rw [spelled]
      rfl
    | nil =>
      -- There is no name to take off: at the root `..` is dropped, and otherwise it is kept.
      rw [List.map_nil, List.nil_append] at spelled
      have kept : pushStep stack.absolute stack.steps .up =
          if stack.absolute then stack.steps else .up :: stack.steps := by
        rw [spelled]
        cases ups <;> rfl
      cases rooted : stack.absolute with
      | true =>
        refine ⟨[], ups, nofun, ?_, fun _ => atRoot rooted⟩
        rw [Stack.push, kept, rooted, if_pos rfl, spelled]
        rfl
      | false =>
        refine ⟨[], ups + 1, nofun, ?_, ?_⟩
        · rw [Stack.push, kept, rooted, if_neg (by simp), spelled]
          rfl
        · rw [Stack.push, rooted]
          nofun

theorem IsReduced.foldl {steps : List Step} (reduced : stack.IsReduced)
    (areSteps : ∀ name, .down name ∈ steps → Name.IsStep name) :
    (steps.foldl Stack.push stack).IsReduced := by
  induction steps generalizing stack with
  | nil => exact reduced
  | cons step rest ih =>
    refine ih (reduced.push ?_) fun name mem => areSteps name (List.mem_cons_of_mem _ mem)
    rintro name rfl
    exact areSteps name List.mem_cons_self

/-- All steps that are left lead away. -/
theorem IsReduced.moves (reduced : stack.IsReduced) : ∀ step ∈ stack.steps, step.moves = true := by
  obtain ⟨names, ups, -, spelled, -⟩ := reduced
  intro step mem
  rw [spelled] at mem
  rcases List.mem_append.1 mem with isDown | isUp
  · obtain ⟨name, -, rfl⟩ := List.mem_map.1 isDown
    rfl
  · rw [List.eq_of_mem_replicate isUp]
    rfl

/-- The steps of a stack leave that stack again. -/
theorem IsReduced.foldl_reverse (reduced : stack.IsReduced) :
    stack.steps.reverse.foldl Stack.push ⟨stack.absolute, []⟩ = stack := by
  obtain ⟨names, ups, -, spelled, atRoot⟩ := reduced
  have onlyUps : ∀ count : Nat, (stack.absolute = true → count = 0) →
      (List.replicate count Step.up).foldl Stack.push ⟨stack.absolute, []⟩ =
        ⟨stack.absolute, List.replicate count .up⟩ := by
    intro count atRoot
    induction count with
    | zero => rfl
    | succ count ih =>
      cases rooted : stack.absolute with
      | true => cases atRoot rooted
      | false =>
        rw [rooted] at ih
        rw [List.replicate_succ', List.foldl_append, ih nofun, ← List.replicate_succ',
          List.replicate_succ]
        cases count <;> rfl
  have onTop : ∀ names : List Name, (names.map Step.down).reverse.foldl Stack.push
      ⟨stack.absolute, List.replicate ups .up⟩ =
        ⟨stack.absolute, names.map .down ++ List.replicate ups .up⟩ := by
    intro names
    induction names with
    | nil => rfl
    | cons name rest ih =>
      rw [List.map_cons, List.reverse_cons, List.foldl_append, ih]
      rfl
  rw [spelled, List.reverse_append, List.foldl_append, List.reverse_replicate, onlyUps ups atRoot,
    onTop, ← spelled]

end Stack

/-- The stack that the steps of a path leave. -/
def stack (path : Path) : Stack :=
  path.foldFrom Stack.push .root ⟨false, []⟩

variable {path : Path} {stack : Stack}

/-- A path leads on from where it starts. -/
theorem absolute_stack (path : Path) : path.stack.absolute = path.isAbsolute := by
  rw [Path.stack, foldFrom, Stack.foldl_push]
  cases path.isAbsolute <;> rfl

/-- The normal form of a path is written from its stack. -/
theorem normalize_eq_path_stack (path : Path) : path.normalize = path.stack.path := by
  rw [normalize, reduceSteps, Path.stack, foldFrom, Stack.foldl_push, Stack.path]
  cases path.isAbsolute <;> rfl

theorem isReduced_stack (path : Path) : path.stack.IsReduced := by
  have atStart : (if path.isAbsolute then Stack.root else ⟨false, []⟩ : Stack).IsReduced := by
    split_ifs
    · exact Stack.isReduced_root
    · exact ⟨[], 0, nofun, rfl, nofun⟩
  exact atStart.foldl fun _ mem => isStep_of_mem_steps mem

/-- A path that starts at the root has nothing before its first slash. -/
theorem head?_steps (absolute : path.isAbsolute = true) : path.steps.head? = some .empty := by
  obtain ⟨bytes⟩ := path
  obtain ⟨rest, rfl⟩ : ∃ rest, bytes = slash :: rest := by
    simpa [isAbsolute, List.head?_eq_some_iff] using absolute
  have cut : (Path.mk (slash :: rest)).steps = .empty :: (Path.mk rest).steps :=
    steps_append_slash_cons [] rest
  rw [cut, List.head?_cons]

/-- A path that is written from a stack has the steps of the stack, behind the slash at the root. -/
theorem steps_path (reduced : stack.IsReduced) (notNil : stack.steps ≠ []) :
    stack.path.steps =
      if stack.absolute then .empty :: stack.steps.reverse else stack.steps.reverse := by
  have moves := reduced.moves
  obtain ⟨names, ups, areSteps, spelled, -⟩ := reduced
  have isName : ∀ name, Step.down name ∈ stack.steps.reverse → name.IsStep := by
    intro name mem
    rw [List.mem_reverse, spelled] at mem
    exact areSteps name (by simpa using mem)
  exact steps_ofSteps stack.absolute isName (fun step mem => moves step (List.mem_reverse.1 mem))
    (by simpa using notNil)

/-- A path that is written from a stack with names on top of `..` leaves that stack. -/
theorem stack_path (reduced : stack.IsReduced) : stack.path.stack = stack := by
  by_cases nothing : stack.steps = []
  · obtain ⟨absolute, steps⟩ := stack
    obtain rfl : steps = [] := nothing
    cases absolute <;> rfl
  have back := reduced.foldl_reverse
  have read := steps_path reduced nothing
  rw [Path.stack, foldFrom, read]
  cases rooted : stack.absolute with
  | true =>
    have absolute : stack.path.isAbsolute = true := by
      rw [Stack.path, ofSteps, rooted]
      rfl
    rw [rooted] at back
    rw [absolute]
    exact back
  | false =>
    -- No step of the path is empty, so that it does not start with a slash.
    have relative : stack.path.isAbsolute = false := by
      rw [← Bool.not_eq_true]
      intro absolute
      have first := head?_steps absolute
      rw [read, rooted, if_neg (by simp)] at first
      cases reduced.moves _ (List.mem_reverse.1 (List.mem_of_mem_head? first))
    rw [rooted] at back
    rw [relative]
    exact back

/-- The normal form of a path leaves the same stack as the path. -/
theorem stack_normalize (path : Path) : path.normalize.stack = path.stack := by
  rw [normalize_eq_path_stack, stack_path (isReduced_stack path)]

/-- What continues a path is put onto its stack. -/
theorem stack_join (path next : Path) :
    (path.join next).stack = next.foldFrom Stack.push .root path.stack :=
  foldFrom_join Stack.push_empty path next _

end LineShell.Path
