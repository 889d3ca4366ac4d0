import LineShell.Proofs.FileSystem.Operations
import LineShell.Proofs.FileSystem.Plain
import LineShell.Proofs.Path.Normal
import LineShell.WorkingDirectory

/-!
# Where normal paths lead

Where there are no links, a walk goes where the path says: it arrives at the location at which the
steps arrive by what is written alone (`Leads.eq_foldl_advance`). The normal form spells that
location, so it leads there too. This is so of the lookups of the program, with their limits on
names and paths, and of the plain one that takes a path component by component (`lookUp?`).

The main result is `standsFor_normalize`: the normal form of a path stands for the path, and so the
path that the working directory makes of an operand names what the operand does. With links this is
so of directories where the path does not lead up (`find_normalize_iff`): `..` behind a link leads
up from where the link leads, and in the normal form from where the link stands.
-/

namespace LineShell.FileSystem

open LineShell.Path (Step ofLocation advance)

/-- Where a step leads from a location. Only from a directory does a step lead up, or down to an
entry that is there; the root is above itself. -/
def stepTo? (fs : FileSystem) (loc : Location) : Step → Option Location
  | .empty | .here => some loc
  | .up => if fs.entry? loc = some .directory then some loc.tail else none
  | .down name =>
    if fs.entry? loc = some .directory ∧ fs.entry? (name :: loc) ≠ none then some (name :: loc)
    else none

/-- The location that a path leads to from the root, component by component: each component before
the last one has to be a directory, and the last one has to be there. What stands between the
components, be it dots or any number of slashes, makes no difference, nor does the length of the
path. -/
def lookUp? (fs : FileSystem) (path : Path) : Option Location :=
  path.steps.foldlM fs.stepTo? []

/-- A path stands for another one: wherever that leads, it leads too. -/
structure StandsFor (fs : FileSystem) (path other : Path) : Prop where
  /-- Component by component it leads to the same location. -/
  lookUp : ∀ loc, fs.lookUp? other = some loc → fs.lookUp? path = some loc
  /-- It finds what stands there, whatever is done with links, unless it is too long. -/
  reaches : ∀ loc, fs.lookUp? other = some loc → path.bytes.length ≤ maxPathLength →
    ∀ last, ∃ found, fs.entry? loc = some found ∧ fs.find path last = .ok (loc, found)
  /-- It leads to the same location, be it vacant. -/
  locate : ∀ last loc, fs.locate other last = .ok loc → fs.locate path last = .ok loc
  /-- It finds the same entry. -/
  find : ∀ last loc found, fs.find other last = .ok (loc, found) →
    fs.find path last = .ok (loc, found)

variable {fs : FileSystem} {last : LastStep} {links : Nat} {loc dest : Location} {steps : List Step}
  {path : Path}

/-! ## Component by component -/

theorem of_stepTo? {step : Step} (there : fs.entry? loc ≠ none)
    (h : fs.stepTo? loc step = some dest) :
    dest = advance loc step ∧ fs.entry? dest ≠ none := by
  cases step with
  | empty =>
    cases h
    exact ⟨rfl, there⟩
  | here =>
    cases h
    exact ⟨rfl, there⟩
  | up =>
    simp only [stepTo?, Option.ite_none_right_eq_some, Option.some.injEq] at h
    obtain ⟨dir, rfl⟩ := h
    refine ⟨rfl, ?_⟩
    cases loc with
    | nil => exact there
    | cons name parent => simp [entry?_parent dir]
  | down name =>
    simp only [stepTo?, Option.ite_none_right_eq_some, Option.some.injEq] at h
    obtain ⟨⟨-, stands⟩, rfl⟩ := h
    exact ⟨rfl, stands⟩

/-- Component by component, a path leads to where its steps arrive, and something stands there. -/
theorem of_lookUp? (h : fs.lookUp? path = some dest) :
    dest = path.arrival ∧ fs.entry? dest ≠ none := by
  -- Something stands at the root, and every step keeps to places where something stands.
  have run : ∀ (steps : List Step) (loc : Location), fs.entry? loc ≠ none →
      steps.foldlM fs.stepTo? loc = some dest →
      dest = steps.foldl advance loc ∧ fs.entry? dest ≠ none := by
    intro steps
    induction steps with
    | nil =>
      intro loc there h
      cases h
      exact ⟨rfl, there⟩
    | cons step rest ih =>
      intro loc there h
      rw [List.foldlM_cons, Option.bind_eq_bind, Option.bind_eq_some_iff] at h
      obtain ⟨next, stepped, onward⟩ := h
      obtain ⟨rfl, stands⟩ := of_stepTo? there stepped
      exact ih _ stands onward
  exact run path.steps [] (by simp) h

private theorem foldlM_stepTo?_down (there : fs.entry? loc ≠ none) :
    (loc.reverse.map Step.down).foldlM fs.stepTo? [] = some loc := by
  induction loc with
  | nil => rfl
  | cons name parent ih =>
    obtain ⟨found, stands⟩ := Option.ne_none_iff_exists'.1 there
    -- Everything above an entry is a directory, so that the walk gets that far.
    have dir := entry?_parent stands
    have above := ih (by simp [dir])
    rw [List.reverse_cons, List.map_append, List.foldlM_append, above]
    simp [stepTo?, dir, stands]

/-- The path of a location at which something stands leads there. -/
theorem lookUp?_ofLocation (there : fs.entry? loc ≠ none) :
    fs.lookUp? (ofLocation loc) = some loc := by
  by_cases root : loc = []
  · subst root
    rfl
  · obtain ⟨found, stands⟩ := Option.ne_none_iff_exists'.1 there
    rw [lookUp?, Path.steps_ofLocation (isPlace_of_entry stands).isStep root]
    exact foldlM_stepTo?_down there

/-! ## Walks without links -/

/-- A walk that meets no links goes where the path says. -/
theorem Leads.eq_foldl_advance (noLink : ∀ loc target, fs.entry? loc ≠ some (.link target))
    (h : fs.Leads last links loc steps dest) : dest = steps.foldl advance loc := by
  induction h with
  | done => rfl
  | @stay _ _ _ step _ _ still _ ih =>
    cases step with
    | empty => exact ih
    | here => exact ih
    | up => cases still
    | down name => cases still
  | up _ _ ih => exact ih
  | vacant _ _ _ => rfl
  | keep _ found _ => exact absurd found (noLink _ _)
  | follow _ _ found _ _ _ => exact absurd found (noLink _ _)
  | down _ _ _ _ _ ih => exact ih

/-- The path of a place can be looked up unless it is too long. -/
theorem checkPath_ofLocation (place : fs.IsPlace loc)
    (short : (ofLocation loc).bytes.length ≤ maxPathLength) :
    checkPath (ofLocation loc) = .ok () := by
  refine checkPath_eq_ok_iff.2 ⟨fun zero => ?_, by simp [Path.bytes_ofLocation], short⟩
  rcases Path.exists_of_mem_bytes_ofLocation zero with slash | ⟨name, mem, holds⟩
  · cases slash
  · have valid := place.isValid name mem
    simp [Name.isValid, holds] at valid

/-! ## Normal forms -/

section NoLinks

variable (noLink : ∀ loc target, fs.entry? loc ≠ some (.link target))

include noLink

/-- Where a path is looked up successfully, so is its normal form. -/
theorem locate_normalize (absolute : path.isAbsolute = true)
    (h : fs.locate path last = .ok dest) : fs.locate path.normalize last = .ok dest := by
  obtain ⟨checked, leads⟩ := locate_eq_ok_iff.1 h
  have place := isPlace_of_locate h
  -- The path passed the check, and its normal form is no longer.
  have short : path.normalize.bytes.length ≤ maxPathLength :=
    (Path.length_normalize_le absolute).trans (checkPath_eq_ok_iff.1 checked).2.2
  have spelled : path.normalize = ofLocation dest := by
    rw [Path.normalize_eq_ofLocation absolute, leads.eq_foldl_advance noLink, Path.arrival]
  rw [spelled] at short ⊢
  exact locate_ofLocation last place (checkPath_ofLocation place short) (.inr (noLink dest))

theorem find_normalize_of_lookUp? (absolute : path.isAbsolute = true)
    (h : fs.lookUp? path = some dest) (short : path.normalize.bytes.length ≤ maxPathLength)
    (last : LastStep) :
    ∃ found, fs.entry? dest = some found ∧ fs.find path.normalize last = .ok (dest, found) := by
  obtain ⟨arrives, there⟩ := of_lookUp? h
  obtain ⟨found, stands⟩ := Option.ne_none_iff_exists'.1 there
  have place := isPlace_of_entry stands
  have spelled : path.normalize = ofLocation dest := by
    rw [Path.normalize_eq_ofLocation absolute, arrives]
  rw [spelled] at short ⊢
  have located := locate_ofLocation last place (checkPath_ofLocation place short)
    (.inr (noLink dest))
  exact ⟨found, stands, find_eq_ok_iff.2 ⟨located, stands⟩⟩

/-- Where there are no links, the normal form of an absolute path stands for the path, and what the
working directory makes of an operand stands for the operand. -/
theorem standsFor_normalize :
    (∀ path : Path, path.isAbsolute = true → fs.StandsFor path.normalize path) ∧
      ∀ (dir : WorkingDirectory) (operand : String), dir.current.isAbsolute = true →
        fs.StandsFor (dir.resolve operand) (dir.current.join (Path.expandHome dir.home operand)) := by
  have normal : ∀ path : Path, path.isAbsolute = true → fs.StandsFor path.normalize path := by
    intro path absolute
    refine ⟨fun loc h => ?_, fun loc h => find_normalize_of_lookUp? noLink absolute h,
      fun last loc h => locate_normalize noLink absolute h, fun last loc found h => ?_⟩
    · obtain ⟨rfl, there⟩ := of_lookUp? h
      rw [Path.normalize_eq_ofLocation absolute]
      exact lookUp?_ofLocation there
    · obtain ⟨located, stands⟩ := find_eq_ok_iff.1 h
      exact find_eq_ok_iff.2 ⟨locate_normalize noLink absolute located, stands⟩
  exact ⟨normal, fun dir operand absolute => normal _ (Path.isAbsolute_join absolute _)⟩

end NoLinks

/-! ## Paths without `..` -/

/-- A path that is not too long can be looked up if its steps lead somewhere. -/
private theorem checkPath_of_leads (absolute : path.isAbsolute = true)
    (leads : fs.Leads last links loc path.steps dest) (short : path.bytes.length ≤ maxPathLength) :
    checkPath path = .ok () := by
  refine checkPath_eq_ok_iff.2 ⟨fun zero => ?_, fun empty => ?_, short⟩
  -- A byte that no name may hold would be in one of the names that the walk goes down to.
  · obtain ⟨name, mem, holds⟩ := Path.exists_of_mem_bytes zero (by decide) (by decide)
    have valid := leads.isValid_of_mem mem
    simp [Name.isValid, holds] at valid
  · simp [Path.isAbsolute, empty] at absolute

/-- Without `..`, the normal form of a path leads to a directory exactly if the path does, whatever
links there are. -/
theorem find_normalize_iff (absolute : path.isAbsolute = true) (noUp : .up ∉ path.steps)
    (short : path.bytes.length ≤ maxPathLength) :
    fs.find path.normalize .follow = .ok (dest, .directory) ↔
      fs.find path .follow = .ok (dest, .directory) := by
  have moves := Path.moves_normalize absolute noUp
  have absoluteNormal : path.normalize.isAbsolute = true := by
    rw [Path.normalize_eq_ofLocation absolute, Path.isAbsolute_ofLocation]
  have shortNormal := (Path.length_normalize_le absolute).trans short
  rw [find_eq_ok_iff, find_eq_ok_iff, locate_eq_ok_iff, locate_eq_ok_iff]
  constructor
  · rintro ⟨⟨-, leads⟩, dir⟩
    have onward := leads.of_moves_eq dir moves.symm
    exact ⟨⟨checkPath_of_leads absolute onward short, onward⟩, dir⟩
  · rintro ⟨⟨-, leads⟩, dir⟩
    have onward := leads.of_moves_eq dir moves
    exact ⟨⟨checkPath_of_leads absoluteNormal onward shortNormal, onward⟩, dir⟩

/-- A root with a directory `a` in which there is a directory `b`. -/
def nestedDirectories : FileSystem :=
  (empty.add [] (Text.encode "a") .directory).add [Text.encode "a"] (Text.encode "b") .directory

theorem standsFor_normalize_nestedDirectories :
    (∀ loc target, nestedDirectories.entry? loc ≠ some (.link target)) ∧
      (Path.ofString "/../a/b/.//../b/").normalize = .ofString "/a/b" ∧
      nestedDirectories.lookUp? (.ofString "/../a/b/.//../b/") =
        some [Text.encode "b", Text.encode "a"] ∧
      nestedDirectories.StandsFor (.ofString "/a/b") (.ofString "/../a/b/.//../b/") := by
  have plain : nestedDirectories.IsPlain := by decide +kernel
  have normal : (Path.ofString "/../a/b/.//../b/").normalize = .ofString "/a/b" := by
    decide +kernel
  have stands := (standsFor_normalize plain.noLink).1 (.ofString "/../a/b/.//../b/")
    (by decide +kernel)
  rw [normal] at stands
  exact ⟨plain.noLink, normal, by decide +kernel, stands⟩

end LineShell.FileSystem
