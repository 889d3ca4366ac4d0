import LineShell.Proofs.FileSystem.CopyTree

/-!
# What a failed copy leaves behind

A copy ends where a file and a directory stand in each other's place. What comes before that place in the
tree, each directory before its entries and these in ascending order of their names, has been copied,
and nothing else has been done (`copyTree_stops_at_first_conflict`), unless the copy has met a device
before (`not_stopsAt_device`).
-/

namespace LineShell.FileSystem

variable {fs later : FileSystem} {source target way other : Location} {front rest ways : List Location}

/-- At the end of a way below a source a file and a directory stand in each other's place below a
target, and at no way that comes before. -/
structure IsFirstConflict (fs : FileSystem) (source target way : Location) : Prop where
  /-- Here there is a conflict. -/
  conflict : Conflict (fs.sight? (way ++ source)) (fs.sight? (way ++ target))
  /-- There is none before. -/
  before : ∀ other, Precedes other way →
    ¬ Conflict (fs.sight? (other ++ source)) (fs.sight? (other ++ target))

/-- The kind of the fault with which a copy ends at a conflict, for what is to be copied. -/
def conflictKind : Option Sight → Fault.Kind
  | some .directory => .alreadyExists
  | _ => .isADirectory

/-- The copy of a tree fails at the end of a way, and what comes before has been copied. -/
structure StopsAt (fs : FileSystem) (source destination : Path) (way : Location) : Prop where
  /-- It fails, since the place of a directory is taken or a directory takes that of a file. -/
  fails : ∃ fault, (fs.copyTree source destination).result = .error fault ∧
    fault.kind = conflictKind (fs.sight? (way ++ source.location))
  /-- Directories and files before the way are at the destination. -/
  copied : ∀ other, Precedes other way →
    (fs.copyTree source destination).files.sight? (other ++ destination.location) =
      copiedOver (fs.sight? (other ++ source.location))
        (fs.sight? (other ++ destination.location))
  /-- All else is what it was. -/
  kept : ∀ loc, (∀ other, Precedes other way → loc ≠ other ++ destination.location) →
    (fs.copyTree source destination).files.sight? loc = fs.sight? loc
  /-- So is the source. -/
  source_kept : ∀ other,
    (fs.copyTree source destination).files.sight? (other ++ source.location) =
      fs.sight? (other ++ source.location)

/-! ## Where a list is split -/

/-- A list in which something holds of a member is split at the first such member. -/
private theorem exists_split_first {P : Location → Prop} (h : ∃ way ∈ ways, P way) :
    ∃ front way rest, ways = front ++ way :: rest ∧ (∀ other ∈ front, ¬ P other) ∧ P way := by
  classical
  obtain ⟨way, mem, holds⟩ := h
  obtain ⟨first, found⟩ : ∃ first, ways.find? (fun way => decide (P way)) = some first :=
    Option.isSome_iff_exists.1 (List.find?_isSome.2 ⟨way, mem, decide_eq_true holds⟩)
  obtain ⟨here, front, rest, split, fits⟩ := List.find?_eq_some_iff_append.1 found
  exact ⟨front, first, rest, split, fun other mem => by simpa using fits other mem,
    of_decide_eq_true here⟩

/-- In an ascending list, what stands before a member is what comes before it. -/
private theorem mem_front_iff (ordered : (front ++ way :: rest).Pairwise Precedes)
    (mem : other ∈ front ++ way :: rest) : other ∈ front ↔ Precedes other way := by
  obtain ⟨-, behind, across⟩ := List.pairwise_append.1 ordered
  refine ⟨fun inFront => across other inFront way List.mem_cons_self, fun before => ?_⟩
  rcases List.mem_append.1 mem with inFront | mem
  · exact inFront
  · rcases List.mem_cons.1 mem with rfl | inRest
    · exact absurd before (not_precedes_self other)
    · exact absurd before (List.rel_of_pairwise_cons behind inRest).asymm

/-! ## Runs that stop -/

section Run

variable (apart : ∀ a b : Location, a ++ source ≠ b ++ target)

include apart

/-- A run stops at the first way that clashes, with what comes before it laid over the target. -/
theorem Ready.stops (ready : fs.Ready source target (front ++ way :: rest))
    (fits : ∀ other ∈ front, ¬ Clash (fs.sight? (other ++ source)) (fs.sight? (other ++ target)))
    (clash : Clash (fs.sight? (way ++ source)) (fs.sight? (way ++ target))) :
    fs.Overlaid source target front (copyWays source target (front ++ way :: rest) fs).files ∧
      ∃ fault, (copyWays source target (front ++ way :: rest) fs).result = .error fault ∧
        fault.kind = clashKind (fs.sight? (way ++ source)) (fs.sight? (way ++ target)) := by
  obtain ⟨copied, overlay⟩ := ready.of_append.overlaid apart fits
  have readyThere := ready.after apart copied
  have notBefore : way ∉ front := fun mem => fits way mem clash
  -- What has been copied so far has changed neither side of the clash.
  have same := overlay.sight?_source apart way
  have sameTarget := overlay.sight?_target notBefore
  rw [← same, ← sameTarget] at clash ⊢
  obtain ⟨unchanged, fault, failed, kind⟩ := readyThere.head_clash clash
  have stopped : copyWays source target (way :: rest) (copyWays source target front fs).files =
      copyAt (copyWays source target front fs).files source target way := by
    rw [copyWays, Copied.andThen_of_error failed]
  rw [copyWays_append, Copied.andThen_of_ok copied, stopped, unchanged]
  refine ⟨overlay, fault, ?_, kind⟩
  rw [failed]
  rfl

end Run

/-! ## The first conflict -/

theorem Conflict.kind_eq {seen place : Option Sight} (h : Conflict seen place) :
    clashKind seen place = conflictKind seen := by
  cases h with
  | file_directory file => rfl
  | directory_file file => rfl

theorem Conflict.clash {seen place : Option Sight} (h : Conflict seen place) : Clash seen place := by
  cases h with
  | file_directory file => trivial
  | directory_file file => trivial

namespace Copyable

variable {source destination : Path} (setting : fs.Copyable source destination)

include setting

/-- What can conflict is copied, so it is among the ways that the copy goes along. -/
private theorem mem_copiedWays_of_conflict (h : Conflict (fs.sight? (way ++ source.location))
    (fs.sight? (way ++ destination.location))) : way ∈ fs.copiedWays source destination := by
  rw [setting.mem_copiedWays]
  intro absent
  rw [sight?_eq_none_iff.2 absent] at h
  cases h

/-- Where there are conflicts, one of them comes first. -/
theorem exists_isFirstConflict (conflicts : ∃ way, Conflict (fs.sight? (way ++ source.location))
    (fs.sight? (way ++ destination.location))) :
    ∃ way, fs.IsFirstConflict source.location destination.location way := by
  have listed : ∃ way ∈ fs.copiedWays source destination, Conflict
      (fs.sight? (way ++ source.location)) (fs.sight? (way ++ destination.location)) := by
    obtain ⟨way, conflict⟩ := conflicts
    exact ⟨way, setting.mem_copiedWays_of_conflict conflict, conflict⟩
  obtain ⟨front, first, rest, split, fits, here⟩ := exists_split_first listed
  have ordered := setting.ready.ordered
  rw [split] at ordered
  refine ⟨first, here, fun other before conflictBefore => ?_⟩
  have listed := setting.mem_copiedWays_of_conflict conflictBefore
  rw [split] at listed
  exact fits other ((mem_front_iff ordered listed).2 before) conflictBefore

/-- A copy stops at the first conflict, if it has met no device by then. -/
theorem stopsAt (first : fs.IsFirstConflict source.location destination.location way)
    (noDevice : ∀ other, Precedes other way → fs.NoDeviceAt source destination other) :
    fs.StopsAt source destination way := by
  have ready := setting.ready
  have listed : ∀ other, other ∈ fs.copiedWays source destination ↔
      fs.entry? (other ++ source.location) ≠ none := fun other => setting.mem_copiedWays
  obtain ⟨front, rest, split⟩ :=
    List.append_of_mem (setting.mem_copiedWays_of_conflict first.conflict)
  rw [split] at ready listed
  have before : ∀ other ∈ front, Precedes other way := fun other mem =>
    (mem_front_iff ready.ordered (List.mem_append_left _ mem)).1 mem
  -- Before the conflict, only the device could clash.
  have fits : ∀ other ∈ front, ¬ Clash (fs.sight? (other ++ source.location))
      (fs.sight? (other ++ destination.location)) := fun other mem clash =>
    first.before other (before other mem) ((clash_iff_conflict setting.plain.sight?_ne_link
      setting.plain.sight?_ne_link (noDevice other (before other mem))).1 clash)
  obtain ⟨overlay, fault, failed, kind⟩ := ready.stops setting.apart fits first.conflict.clash
  rw [← split, ← setting.copyTree_eq_copyWays] at overlay failed
  refine ⟨⟨fault, failed, kind.trans first.conflict.kind_eq⟩, fun other precedes => ?_,
    fun loc outside => overlay.kept loc fun other mem => outside other (before other mem),
    overlay.sight?_source setting.apart⟩
  rw [← laidOver_eq_copiedOver fun present => (noDevice other precedes present).2]
  by_cases absent : fs.entry? (other ++ source.location) = none
  · -- Where the source has nothing, nothing is laid over the target.
    have notCopied : other ∉ front := fun mem =>
      (listed other).1 (List.mem_append_left _ mem) absent
    rw [overlay.sight?_target notCopied, sight?_eq_none_iff.2 absent]
    rfl
  · exact overlay.laid other
      ((mem_front_iff ready.ordered ((listed other).2 absent)).2 precedes)

end Copyable

/-- Where a file and a directory stand in each other's place, the copy of a tree fails at the first
such place, if it has met no device by then: for a directory because its place is taken, for a file
because a directory takes its own. What comes before has then been copied, and all else is as it
was. -/
theorem copyTree_stops_at_first_conflict {source destination : Path}
    (setting : fs.Copyable source destination)
    (conflicts : ∃ way, Conflict (fs.sight? (way ++ source.location))
      (fs.sight? (way ++ destination.location))) :
    ∃ way, fs.IsFirstConflict source.location destination.location way ∧
      ((∀ other, Precedes other way → fs.NoDeviceAt source destination other) →
        fs.StopsAt source destination way) := by
  obtain ⟨way, first⟩ := setting.exists_isFirstConflict conflicts
  exact ⟨way, first, setting.stopsAt first⟩

/-- Two trees: `a` holds a file `c`, a directory `d` with a file `f`, and a file `z`; in `b` a directory
stands at `d/f`. -/
def takenName : FileSystem :=
  let a : Name := Text.encode "a"
  let b : Name := Text.encode "b"
  let d : Name := Text.encode "d"
  let f : Name := Text.encode "f"
  let source := ((empty.add [] a .directory).add [a] d .directory).addFile [d, a] f ⟨[1], false⟩
  let files := (source.addFile [a] (Text.encode "c") ⟨[2], true⟩).addFile [a] (Text.encode "z")
    ⟨[3], false⟩
  ((files.add [] b .directory).add [b] d .directory).add [d, b] f .directory

theorem copyTree_stops_at_first_conflict_takenName :
    let a := Path.ofString "/a"
    let b := Path.ofString "/b"
    takenName.Copyable a b ∧
      (∃ way, Conflict (takenName.sight? (way ++ a.location)) (takenName.sight? (way ++ b.location))) ∧
      ∃ way, takenName.IsFirstConflict a.location b.location way ∧ takenName.StopsAt a b way := by
  intro a b
  have setting : takenName.Copyable a b := by decide +kernel
  have conflicts : ∃ way, Conflict (takenName.sight? (way ++ a.location))
      (takenName.sight? (way ++ b.location)) := by
    let way := [Text.encode "f", Text.encode "d"]
    have file : takenName.sight? (way ++ a.location) = some (.file ⟨[1], false⟩) := by decide +kernel
    have taken : takenName.sight? (way ++ b.location) = some .directory := by decide +kernel
    refine ⟨way, ?_⟩
    rw [file, taken]
    exact .file_directory _
  obtain ⟨way, first, stops⟩ := copyTree_stops_at_first_conflict setting conflicts
  exact ⟨setting, conflicts, way, first,
    stops fun other _ => noDeviceAt_of_toList (by decide +kernel) a b other⟩

/-- The file before the conflict is copied and may be run, and the one behind it is not. -/
example :
    let files := (takenName.copyTree (.ofString "/a") (.ofString "/b")).files
    files.sight? [Text.encode "c", Text.encode "b"] = some (.file ⟨[2], true⟩) ∧
      files.sight? [Text.encode "z", Text.encode "b"] = none := by
  decide +kernel

/-- Two trees: `a` holds the device `d` and a file `f`; in `b` a directory stands at `f`. -/
def deviceBeforeConflict : FileSystem :=
  let a : Name := Text.encode "a"
  let b : Name := Text.encode "b"
  let f : Name := Text.encode "f"
  let source := ((empty.add [] a .directory).add [a] (Text.encode "d") .nullDevice).addFile [a] f
    ⟨[1], false⟩
  (source.add [] b .directory).add [b] f .directory

/-- The copy ends at the device, and for another reason. -/
theorem not_stopsAt_device :
    let a := Path.ofString "/a"
    let b := Path.ofString "/b"
    deviceBeforeConflict.Copyable a b ∧
      (∃ way, Conflict (deviceBeforeConflict.sight? (way ++ a.location))
        (deviceBeforeConflict.sight? (way ++ b.location))) ∧
      ¬ ∃ way, deviceBeforeConflict.IsFirstConflict a.location b.location way ∧
        deviceBeforeConflict.StopsAt a b way := by
  intro a b
  refine ⟨by decide +kernel, ⟨[Text.encode "f"], ?_⟩, ?_⟩
  · have file : deviceBeforeConflict.sight? ([Text.encode "f"] ++ a.location) =
        some (.file ⟨[1], false⟩) := by
      decide +kernel
    have taken : deviceBeforeConflict.sight? ([Text.encode "f"] ++ b.location) =
        some .directory := by
      decide +kernel
    rw [file, taken]
    exact .file_directory _
  · rintro ⟨way, -, stops⟩
    obtain ⟨fault, failed, kind⟩ := stops.fails
    have ended : (deviceBeforeConflict.copyTree a b).result = .error .notAFile := by decide +kernel
    cases ended.symm.trans failed
    -- At a conflict a copy does not fail for such a reason.
    have other : ∀ seen, conflictKind seen ≠ .invalidInput := by
      intro seen
      unfold conflictKind
      split
      · simp
      · simp
    exact other _ kind.symm

end LineShell.FileSystem
