import Mathlib.Algebra.GroupWithZero.Nat
import Mathlib.Algebra.Order.BigOperators.Group.List
import LineShell.Proofs.Path.Location

/-!
# Normal paths

The paths that spell locations are normal (`normalize_ofLocation`), so that taking the normal form
of an absolute path a second time changes nothing; and the normal form is no longer than the path
(`length_normalize_le`), so that no limit on the length of paths stands in its way.
-/

namespace LineShell.Path

variable {path : Path} {loc : Location}

private theorem foldl_advance_down (names : List Name) :
    (names.map Step.down).foldl advance loc = names.reverse ++ loc := by
  induction names generalizing loc with
  | nil => rfl
  | cons name rest ih =>
    rw [List.map_cons, List.foldl_cons, ih, advance, List.reverse_cons, List.append_assoc]
    rfl

theorem arrival_ofLocation (areSteps : ∀ name ∈ loc, Name.IsStep name) :
    (ofLocation loc).arrival = loc := by
  by_cases root : loc = []
  · subst root
    rfl
  · rw [arrival, steps_ofLocation areSteps root, List.foldl_cons, foldl_advance_down,
      List.reverse_reverse]
    exact List.append_nil loc

/-- The path that spells a location is normal. -/
theorem normalize_ofLocation (areSteps : ∀ name ∈ loc, Name.IsStep name) :
    (ofLocation loc).normalize = ofLocation loc := by
  rw [normalize_eq_ofLocation (isAbsolute_ofLocation loc), arrival_ofLocation areSteps]

/-- The normal form of a path arrives where the path does. -/
theorem arrival_normalize (absolute : path.isAbsolute = true) :
    path.normalize.arrival = path.arrival := by
  rw [normalize_eq_ofLocation absolute, arrival_ofLocation fun _ mem => isStep_of_mem_arrival mem]

/-- Steps that lead up nowhere arrive at the names in them. -/
private theorem foldl_advance_of_up_not_mem {steps : List Step} (noUp : .up ∉ steps) :
    (steps.foldl advance loc).reverse.map Step.down =
      loc.reverse.map .down ++ steps.filter Step.moves := by
  induction steps generalizing loc with
  | nil => simp
  | cons step rest ih =>
    rw [List.mem_cons, not_or] at noUp
    rw [List.foldl_cons, ih noUp.2]
    cases step with
    | empty => rfl
    | here => rfl
    | up => exact absurd rfl noUp.1
    | down name =>
      rw [List.filter_cons_of_pos rfl]
      simp [advance]

/-- Without `..`, all that the normal form of a path leaves out are steps that stay. -/
theorem moves_normalize (absolute : path.isAbsolute = true) (noUp : .up ∉ path.steps) :
    path.normalize.steps.filter Step.moves = path.steps.filter Step.moves := by
  rw [normalize_eq_ofLocation absolute, moves_ofLocation fun _ mem => isStep_of_mem_arrival mem]
  exact foldl_advance_of_up_not_mem noUp

/-! ## Lengths -/

/-- The number of bytes that it takes to write a name and a slash for each of the names. -/
private def writtenSize (names : List Bytes) : Nat :=
  (names.map fun name => name.length + 1).sum

private theorem length_intercalate (pieces : List Bytes) (h : pieces ≠ []) :
    ([slash].intercalate pieces).length + 1 = writtenSize pieces := by
  induction pieces with
  | nil => exact absurd rfl h
  | cons first rest ih =>
    cases rest with
    | nil => simp [writtenSize]
    | cons second rest =>
      have ih := ih (by simp)
      simp only [writtenSize, List.intercalate_cons_cons, List.length_append, List.map_cons,
        List.sum_cons, List.length_singleton] at ih ⊢
      omega

private theorem length_ofLocation (h : loc ≠ []) :
    (ofLocation loc).bytes.length = writtenSize loc := by
  have length := length_intercalate loc.reverse (by simpa using h)
  rw [bytes_ofLocation, List.length_cons, length, writtenSize, List.map_reverse,
    List.sum_reverse]
  rfl

/-- A step takes at least as many bytes to write as it adds to the location. -/
private theorem writtenSize_advance_le (loc : Location) (piece : Bytes) :
    writtenSize (advance loc (.ofBytes piece)) ≤ writtenSize loc + (piece.length + 1) := by
  cases read : Step.ofBytes piece with
  | empty => exact Nat.le_add_right _ _
  | here => exact Nat.le_add_right _ _
  | up =>
    -- The name that is left takes its bytes with it.
    cases loc with
    | nil => exact Nat.zero_le _
    | cons name parent =>
      simp only [advance, List.tail_cons, writtenSize, List.map_cons, List.sum_cons]
      omega
  | down name =>
    rw [eq_of_ofBytes read]
    simp only [advance, writtenSize, List.map_cons, List.sum_cons]
    omega

private theorem writtenSize_foldl_advance_le (pieces : List Bytes) (loc : Location) :
    writtenSize ((pieces.map Step.ofBytes).foldl advance loc) ≤
      writtenSize loc + writtenSize pieces := by
  induction pieces generalizing loc with
  | nil => exact Nat.le_refl _
  | cons piece rest ih =>
    calc
      writtenSize (((piece :: rest).map Step.ofBytes).foldl advance loc)
        ≤ writtenSize (advance loc (.ofBytes piece)) + writtenSize rest := ih _
      _ ≤ writtenSize loc + (piece.length + 1) + writtenSize rest :=
        Nat.add_le_add_right (writtenSize_advance_le loc piece) _
      _ = writtenSize loc + writtenSize (piece :: rest) := by
        simp only [writtenSize, List.map_cons, List.sum_cons]
        omega

/-- The normal form of an absolute path is no longer than the path. -/
theorem length_normalize_le (absolute : path.isAbsolute = true) :
    path.normalize.bytes.length ≤ path.bytes.length := by
  obtain ⟨bytes⟩ := path
  obtain ⟨rest, rfl⟩ : ∃ rest, bytes = slash :: rest := by
    simpa [isAbsolute, List.head?_eq_some_iff] using absolute
  rw [normalize_eq_ofLocation absolute]
  -- The slash in front is followed by pieces that take up all the other bytes.
  have pieces : (slash :: rest).splitOn slash = [] :: rest.splitOn slash := by
    rw [← List.nil_append (slash :: rest),
      List.splitOn_append_cons_self_of_not_mem List.not_mem_nil]
  have size : rest.length + 1 = writtenSize (rest.splitOn slash) := by
    rw [← length_intercalate _ (List.splitOn_ne_nil slash rest), List.intercalate_splitOn]
  by_cases root : arrival ⟨slash :: rest⟩ = []
  · rw [root]
    exact Nat.le_add_left 1 _
  · rw [length_ofLocation root, arrival, steps, pieces, List.map_cons, List.foldl_cons]
    calc
      _ ≤ writtenSize [] + writtenSize (rest.splitOn slash) :=
        writtenSize_foldl_advance_le (rest.splitOn slash) []
      _ = (slash :: rest).length := by
        rw [← size, List.length_cons]
        exact Nat.zero_add _

end LineShell.Path
