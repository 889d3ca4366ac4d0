import LineShell.Proofs.FileSystem.Plain
import LineShell.Proofs.FileSystem.Preorder
import LineShell.Proofs.FileSystem.Replay

/-!
# Laying one tree over another

The copy of a tree, taken apart into steps: `copyAt` copies what stands at the end of one way below
the source, a file or a directory without what it holds, and `copyWays` does so for one way after
the other. In a plain file system a step either *clashes* with what stands at the target, and then
changes nothing, or lays what stands in the source over it:

- `exists_error_of_clash` and `exists_ok_of_not_clash` say this of one step;
- `Ready.step` is the invariant that carries a run of steps: what is still to be copied stands
  where it did, and has a directory to be copied into;
- `Ready.not_clash` and `Ready.overlaid` say of a run when it succeeds, how many files it counts,
  and what is seen everywhere afterwards; `Ready.kept` says what a run leaves alone even if it
  fails.
-/

namespace LineShell.FileSystem

open LineShell.Path (ofLocation)

variable {fs later : FileSystem} {source target loc way parent : Location} {name : Name}
  {found : Entry} {ways rest : List Location}

/-! ## One step -/

/-- Copies what stands at the end of a way below one location to the end of the same way below
another. Of a directory only the directory itself is made. -/
def copyAt (fs : FileSystem) (source target way : Location) : Copied :=
  let item := ofLocation (way ++ source)
  let place := ofLocation (way ++ target)
  if fs.isDirectory item then fs.makeTarget place else fs.copyOver item place

/-- Copies what stands at the ends of some ways, one after the other. -/
def copyWays (source target : Location) : List Location → FileSystem → Copied
  | [], fs => ⟨fs, [], .ok 0⟩
  | way :: rest, fs => (fs.copyAt source target way).andThen (copyWays source target rest)

/-- What is seen in a source cannot be laid over what is seen at the target: one of them is a file
and the other a directory, or one is no part of a plain tree of files and directories. The device
at least takes what is written to it. -/
def Clash : Option Sight → Option Sight → Prop
  | some (.file _), some .directory => True
  | some .directory, some (.file _) => True
  | some .directory, some .nullDevice => True
  | some .directory, some (.link _) => True
  | some .nullDevice, _ => True
  | some (.link _), _ => True
  | _, _ => False

/-- The kind of the fault with which a copy ends where something clashes. -/
def clashKind : Option Sight → Option Sight → Fault.Kind
  | some .directory, _ => .alreadyExists
  | _, some .directory => .isADirectory
  | _, _ => .invalidInput

/-- What is seen at a target when a source has been laid over it. The device drops what is written
to it, and where the source has nothing the target stays. -/
def laidOver : Option Sight → Option Sight → Option Sight
  | some .directory, _ => some .directory
  | some (.file _), some .nullDevice => some .nullDevice
  | some (.file file), _ => some (.file file)
  | _, place => place

/-- The later file system is the earlier one with what is seen at some ways below the source laid
over what is seen below the target. -/
structure Overlaid (fs : FileSystem) (source target : Location) (ways : List Location)
    (later : FileSystem) : Prop where
  /-- It is plain. -/
  plain : later.IsPlain
  /-- At the ways below the target, what is seen of the source is laid over what was there. -/
  laid : ∀ way ∈ ways, later.sight? (way ++ target) =
    laidOver (fs.sight? (way ++ source)) (fs.sight? (way ++ target))
  /-- All else is as it was. -/
  kept : ∀ loc, (∀ way ∈ ways, loc ≠ way ++ target) → later.sight? loc = fs.sight? loc

@[simp]
theorem clash_file_iff {file : File} {place : Option Sight} :
    Clash (some (.file file)) place ↔ place = some .directory := by
  rcases place with _ | sight
  · simp [Clash]
  · cases sight <;> simp [Clash]

@[simp]
theorem clash_directory_iff {place : Option Sight} :
    Clash (some .directory) place ↔ place ≠ none ∧ place ≠ some .directory := by
  rcases place with _ | sight
  · simp [Clash]
  · cases sight <;> simp [Clash]

theorem isFile_eq_true_iff : fs.isFile loc = true ↔ ∃ file, fs.sight? loc = some (.file file) := by
  rw [isFile, sight?]
  cases fs.entry? loc with
  | none => simp
  | some found => cases found <;> simp [Entry.file?, sight]

theorem isFile_congr (h : later.sight? loc = fs.sight? loc) : later.isFile loc = fs.isFile loc := by
  rw [Bool.eq_iff_iff, isFile_eq_true_iff, isFile_eq_true_iff, h]

theorem Overlaid.nil (plain : fs.IsPlain) : fs.Overlaid source target [] fs :=
  ⟨plain, by simp, fun _ _ => rfl⟩

/-- A change of what is seen at the end of one way. -/
private theorem overlaid_singleton (plain : later.IsPlain) (seen : Option Sight)
    (laid : seen = laidOver (fs.sight? (way ++ source)) (fs.sight? (way ++ target)))
    (change : ∀ loc, later.sight? loc = if loc = way ++ target then seen else fs.sight? loc) :
    fs.Overlaid source target [way] later where
  plain := plain
  laid := by
    intro other mem
    rw [List.mem_singleton] at mem
    rw [mem, change, if_pos rfl, laid]
  kept := by
    intro loc other
    rw [change, if_neg (other way (List.mem_singleton_self way))]

/-- No change at all, where what stands at the end of one way is what would be laid over it. -/
private theorem overlaid_self (plain : fs.IsPlain)
    (laid : fs.sight? (way ++ target) =
      laidOver (fs.sight? (way ++ source)) (fs.sight? (way ++ target))) :
    fs.Overlaid source target [way] fs := by
  refine overlaid_singleton plain _ laid fun loc => ?_
  split_ifs with here
  · rw [here]
  · rfl

/-! ### What a step meets at the target -/

section Target

variable (plain : fs.IsPlain) (place : fs.IsPlace loc)
  (checked : checkPath (ofLocation loc) = .ok ())

include plain place checked

private theorem makeTarget_of_directory (dir : fs.entry? loc = some .directory) :
    fs.makeTarget (ofLocation loc) = ⟨fs, [], .ok 0⟩ := by
  have noLink := plain.noLink loc
  have present := (isPresent_ofLocation place checked noLink).2 (by simp [dir])
  have isDir := (isDirectory_ofLocation place checked noLink).2 dir
  simp [makeTarget, present, isDir]

private theorem makeTarget_of_other (stands : fs.entry? loc = some found)
    (other : found ≠ .directory) :
    (fs.makeTarget (ofLocation loc)).files = fs ∧
      ∃ fault, (fs.makeTarget (ofLocation loc)).result = .error fault ∧
        fault.kind = .alreadyExists := by
  have noLink := plain.noLink loc
  have present := (isPresent_ofLocation place checked noLink).2 (by simp [stands])
  have notDir : fs.isDirectory (ofLocation loc) = false := by
    rw [Bool.eq_false_iff, Ne, isDirectory_ofLocation place checked noLink, stands]
    simpa using other
  simp [makeTarget, present, notDir, Fault.kind]

private theorem copyOver_of_directory (dir : fs.entry? loc = some .directory) (item : Path) :
    (fs.copyOver item (ofLocation loc)).files = fs ∧
      ∃ fault, (fs.copyOver item (ofLocation loc)).result = .error fault ∧
        fault.kind = .isADirectory := by
  have isDir := (isDirectory_ofLocation place checked (plain.noLink loc)).2 dir
  simp [copyOver, isDir, Fault.kind]

private theorem copyOver_of_not_directory (notDir : fs.entry? loc ≠ some .directory)
    (item : Path) : fs.copyOver item (ofLocation loc) = fs.copyInto item (ofLocation loc) := by
  have isNotDir : fs.isDirectory (ofLocation loc) = false := by
    rwa [Bool.eq_false_iff, Ne, isDirectory_ofLocation place checked (plain.noLink loc)]
  rw [copyOver, if_neg (by simp [isNotDir])]

end Target

private theorem makeTarget_of_vacant (plain : fs.IsPlain) (place : fs.IsPlace (name :: parent))
    (checked : checkPath (ofLocation (name :: parent)) = .ok ())
    (vacant : fs.entry? (name :: parent) = none) :
    fs.makeTarget (ofLocation (name :: parent)) =
      ⟨fs.add parent name .directory, [.made (ofLocation (name :: parent))], .ok 0⟩ := by
  have absent : fs.isPresent (ofLocation (name :: parent)) = false := by
    rw [Bool.eq_false_iff, Ne, isPresent_ofLocation place checked (plain.noLink _)]
    simpa using vacant
  rw [makeTarget, absent, makeDirectory_ofLocation place checked vacant]
  rfl

/-! ### What a step does -/

section Source

variable (plain : fs.IsPlain) (checkedSource : checkPath (ofLocation (way ++ source)) = .ok ())

include plain checkedSource

theorem copyAt_of_directory (dir : fs.entry? (way ++ source) = some .directory) :
    fs.copyAt source target way = fs.makeTarget (ofLocation (way ++ target)) := by
  have isDir := (isDirectory_ofLocation (isPlace_of_entry dir) checkedSource
    (plain.noLink (way ++ source))).2 dir
  rw [copyAt, if_pos isDir]

theorem copyAt_of_not_directory (stands : fs.entry? (way ++ source) = some found)
    (notDir : found ≠ .directory) : fs.copyAt source target way =
      fs.copyOver (ofLocation (way ++ source)) (ofLocation (way ++ target)) := by
  have isNotDir : ¬ fs.isDirectory (ofLocation (way ++ source)) = true := by
    rw [isDirectory_ofLocation (isPlace_of_entry stands) checkedSource
      (plain.noLink (way ++ source)), stands]
    simpa using notDir
  rw [copyAt, if_neg isNotDir]

private theorem find_source (stands : fs.entry? (way ++ source) = some found) :
    fs.find (ofLocation (way ++ source)) .follow = .ok (way ++ source, found) :=
  (find_ofLocation_eq_ok_iff (isPlace_of_entry stands) checkedSource
    (plain.noLink (way ++ source))).2 ⟨rfl, stands⟩

end Source

section Step

variable (plain : fs.IsPlain) (place : fs.IsPlace (way ++ target))
  (checkedSource : checkPath (ofLocation (way ++ source)) = .ok ())
  (checkedTarget : checkPath (ofLocation (way ++ target)) = .ok ())

include plain place checkedSource checkedTarget

/-- A step that clashes changes nothing, and tells why. -/
theorem exists_error_of_clash
    (clash : Clash (fs.sight? (way ++ source)) (fs.sight? (way ++ target))) :
    (fs.copyAt source target way).files = fs ∧
      ∃ fault, (fs.copyAt source target way).result = .error fault ∧
        fault.kind = clashKind (fs.sight? (way ++ source)) (fs.sight? (way ++ target)) := by
  cases stands : fs.entry? (way ++ source) with
  | none =>
    rw [sight?_eq_none_iff.2 stands] at clash
    exact clash.elim
  | some found =>
    rw [sight?_of_entry stands] at clash ⊢
    cases found with
    | directory =>
      obtain ⟨present, notDir⟩ := clash_directory_iff.1 clash
      rw [copyAt_of_directory plain checkedSource stands]
      cases met : fs.entry? (way ++ target) with
      | none => exact absurd (sight?_eq_none_iff.2 met) present
      | some other =>
        refine makeTarget_of_other plain place checkedTarget met ?_
        rintro rfl
        exact notDir (sight?_eq_directory_iff.2 met)
    | file id =>
      rw [copyAt_of_not_directory plain checkedSource stands (by simp)]
      have there := clash_file_iff.1 clash
      rw [there]
      exact copyOver_of_directory plain place checkedTarget (sight?_eq_directory_iff.1 there) _
    | link path => exact absurd stands (plain.noLink _ _)
    | nullDevice =>
      rw [copyAt_of_not_directory plain checkedSource stands (by simp)]
      by_cases dir : fs.entry? (way ++ target) = some .directory
      · rw [sight?_eq_directory_iff.2 dir]
        exact copyOver_of_directory plain place checkedTarget dir _
      · -- The device is no file, so there is nothing to copy.
        have read := find_source plain checkedSource stands
        have kind : clashKind (some .nullDevice) (fs.sight? (way ++ target)) = .invalidInput := by
          rw [← sight?_eq_directory_iff] at dir
          rcases seen : fs.sight? (way ++ target) with _ | sight
          · rfl
          · cases sight with
            | directory => exact absurd seen dir
            | _ => rfl
        rw [copyOver_of_not_directory plain place checkedTarget dir, sight, kind]
        simp [copyInto_eq, copyFile, read, bind, Except.bind, Fault.notAFile, Fault.kind]

/-- A directory is made where nothing stands, and left as it is where a directory stands. -/
private theorem overlaid_of_directory (dir : fs.entry? (way ++ source) = some .directory)
    (fits : fs.sight? (way ++ target) = none ∨ fs.sight? (way ++ target) = some .directory) :
    (fs.copyAt source target way).result = .ok 0 ∧
      fs.Overlaid source target [way] (fs.copyAt source target way).files := by
  have laid : some .directory =
      laidOver (fs.sight? (way ++ source)) (fs.sight? (way ++ target)) := by
    rw [sight?_eq_directory_iff.2 dir]
    rfl
  rw [copyAt_of_directory plain checkedSource dir]
  rcases fits with vacant | there
  · rw [sight?_eq_none_iff] at vacant
    cases dest : way ++ target with
    | nil => simp [dest] at vacant
    | cons name parent =>
      rw [dest] at place vacant checkedTarget
      rw [makeTarget_of_vacant plain place checkedTarget vacant]
      refine ⟨rfl, overlaid_singleton (plain.add_directory place vacant) _ laid ?_⟩
      rw [dest]
      exact sight?_add_directory place vacant
  · rw [makeTarget_of_directory plain place checkedTarget (sight?_eq_directory_iff.1 there)]
    exact ⟨rfl, overlaid_self plain (there.trans laid)⟩

/-- A file is put where nothing stands, and put in place of a file; the device stays. -/
private theorem overlaid_of_file {id : FileId} (apart : way ++ source ≠ way ++ target)
    (stands : fs.entry? (way ++ source) = some (.file id))
    (fits : fs.sight? (way ++ target) ≠ some .directory) :
    (fs.copyAt source target way).result = .ok 1 ∧
      fs.Overlaid source target [way] (fs.copyAt source target way).files := by
  have read := find_source plain checkedSource stands
  have seen : fs.sight? (way ++ source) = some (.file (fs.file id)) := sight?_of_entry stands
  have notDir : fs.entry? (way ++ target) ≠ some .directory := fun dir =>
    fits (sight?_eq_directory_iff.2 dir)
  rw [copyAt_of_not_directory plain checkedSource stands (by simp),
    copyOver_of_not_directory plain place checkedTarget notDir, copyInto_eq]
  -- Where the file goes depends on what is met at the target.
  cases met : fs.entry? (way ++ target) with
  | none =>
    have vacant := sight?_eq_none_iff.2 met
    cases dest : way ++ target with
    | nil => simp [dest] at met
    | cons name parent =>
      rw [dest] at place met checkedTarget
      rw [copyFile_vacant read place checkedTarget met]
      refine ⟨rfl, overlaid_singleton (plain.addFile place met)
        (some (.file (fs.file id))) (by rw [seen, vacant]; rfl) ?_⟩
      rw [dest]
      exact sight?_addFile place met
  | some other =>
    have there := sight?_of_entry met
    cases other with
    | directory => exact absurd met notDir
    | link path => exact absurd met (plain.noLink _ _)
    | nullDevice =>
      rw [copyFile_nullDevice read checkedTarget met]
      exact ⟨rfl, overlaid_self plain (by rw [seen, there]; rfl)⟩
    | file other =>
      -- A file that is copied over itself would be lost; here no two entries share one.
      have different : id ≠ other := by
        rintro rfl
        exact apart (plain.unshared _ _ id stands met)
      rw [copyFile_file read checkedTarget met]
      refine ⟨rfl, overlaid_singleton plain.overwrite (some (.file (fs.file id)))
        (by rw [seen, there]; rfl) ?_⟩
      exact sight?_overwrite plain met different

/-- A step that does not clash lays what stands in the source over the target. -/
theorem exists_ok_of_not_clash (apart : way ++ source ≠ way ++ target)
    (present : fs.entry? (way ++ source) ≠ none)
    (fits : ¬ Clash (fs.sight? (way ++ source)) (fs.sight? (way ++ target))) :
    (fs.copyAt source target way).result = .ok (fs.isFile (way ++ source)).toNat ∧
      fs.Overlaid source target [way] (fs.copyAt source target way).files := by
  obtain ⟨found, stands⟩ := Option.ne_none_iff_exists'.1 present
  rw [sight?_of_entry stands] at fits
  rw [isFile, stands]
  cases found with
  | directory =>
    rw [sight, clash_directory_iff, not_and_or, not_not, not_not] at fits
    exact overlaid_of_directory plain place checkedSource checkedTarget stands fits
  | file id =>
    rw [sight, clash_file_iff] at fits
    exact overlaid_of_file plain place checkedSource checkedTarget apart stands fits
  | link path => exact absurd stands (plain.noLink _ _)
  | nullDevice => exact absurd trivial fits

end Step

/-! ## Runs of steps -/

/-- What some ways lead to can be copied, each in turn: it stands in the source, the paths to it are
not too long, and where it is to go there is a directory to hold it, or one of the ways before it
leads to that directory. -/
structure Ready (fs : FileSystem) (source target : Location) (ways : List Location) : Prop where
  /-- There are no links and no shared files. -/
  plain : fs.IsPlain
  /-- The ways lead to entries below the source. -/
  present : ∀ way ∈ ways, fs.entry? (way ++ source) ≠ none
  /-- No path in the source is too long. -/
  checkedSource : ∀ way ∈ ways, checkPath (ofLocation (way ++ source)) = .ok ()
  /-- No path in the target is too long. -/
  checkedTarget : ∀ way ∈ ways, checkPath (ofLocation (way ++ target)) = .ok ()
  /-- The ways ascend. -/
  ordered : ways.Pairwise Precedes
  /-- The way to a directory comes before the ways to what it holds. -/
  rooted : ∀ way ∈ ways, fs.IsPlace (way ++ target) ∨ (way ≠ [] ∧ way.tail ∈ ways)

theorem Ready.isPlace_head (ready : fs.Ready source target (way :: rest)) :
    fs.IsPlace (way ++ target) := by
  rcases ready.rooted way List.mem_cons_self with place | ⟨notNil, mem⟩
  · exact place
  · -- No way that is listed later leads to the directory above.
    have before := precedes_of_ne_nil notNil
    rcases List.mem_cons.1 mem with same | later
    · rw [same] at before
      exact absurd before (not_precedes_self way)
    · exact absurd before (List.rel_of_pairwise_cons ready.ordered later).asymm

theorem Ready.ne_head (ready : fs.Ready source target (way :: rest)) :
    ∀ other ∈ rest, other ≠ way := by
  rintro other mem rfl
  exact not_precedes_self other (List.rel_of_pairwise_cons ready.ordered mem)

/-- The first of the ways cannot be copied if it clashes. -/
theorem Ready.head_clash (ready : fs.Ready source target (way :: rest))
    (clash : Clash (fs.sight? (way ++ source)) (fs.sight? (way ++ target))) :
    (fs.copyAt source target way).files = fs ∧
      ∃ fault, (fs.copyAt source target way).result = .error fault ∧
        fault.kind = clashKind (fs.sight? (way ++ source)) (fs.sight? (way ++ target)) :=
  exists_error_of_clash ready.plain ready.isPlace_head
    (ready.checkedSource way List.mem_cons_self) (ready.checkedTarget way List.mem_cons_self) clash

/-- The first of the ways can be copied unless it clashes. -/
theorem Ready.head (ready : fs.Ready source target (way :: rest))
    (apart : ∀ a b : Location, a ++ source ≠ b ++ target)
    (fits : ¬ Clash (fs.sight? (way ++ source)) (fs.sight? (way ++ target))) :
    (fs.copyAt source target way).result = .ok (fs.isFile (way ++ source)).toNat ∧
      fs.Overlaid source target [way] (fs.copyAt source target way).files :=
  exists_ok_of_not_clash ready.plain ready.isPlace_head
    (ready.checkedSource way List.mem_cons_self) (ready.checkedTarget way List.mem_cons_self)
    (apart way way) (ready.present way List.mem_cons_self) fits

section Overlaid

variable (apart : ∀ a b : Location, a ++ source ≠ b ++ target)

include apart

/-- The source is seen as it was. -/
theorem Overlaid.sight?_source (overlay : fs.Overlaid source target ways later) (way : Location) :
    later.sight? (way ++ source) = fs.sight? (way ++ source) :=
  overlay.kept _ fun other _ => apart way other

theorem Overlaid.entry?_source_eq_none_iff (overlay : fs.Overlaid source target ways later)
    (way : Location) :
    later.entry? (way ++ source) = none ↔ fs.entry? (way ++ source) = none := by
  rw [← sight?_eq_none_iff, ← sight?_eq_none_iff, overlay.sight?_source apart]

omit apart in
/-- What has been laid over the target at other ways is not seen at this one. -/
theorem Overlaid.sight?_target (overlay : fs.Overlaid source target ways later)
    (notCopied : way ∉ ways) : later.sight? (way ++ target) = fs.sight? (way ++ target) := by
  refine overlay.kept _ fun other mem same => notCopied ?_
  rwa [List.append_cancel_right same]

omit apart in
/-- A directory stays one, unless something clashes with it. -/
theorem Overlaid.entry?_directory (overlay : fs.Overlaid source target [way] later)
    (fits : ¬ Clash (fs.sight? (way ++ source)) (fs.sight? (way ++ target)))
    (dir : fs.entry? loc = some .directory) : later.entry? loc = some .directory := by
  rw [← sight?_eq_directory_iff] at dir ⊢
  by_cases here : loc = way ++ target
  · -- Over a directory only a directory, or nothing, can have been laid.
    rw [here] at dir ⊢
    rw [overlay.laid way (List.mem_singleton_self way), dir]
    rw [dir] at fits
    cases seen : fs.sight? (way ++ source) with
    | none => rfl
    | some sight =>
      rw [seen] at fits
      cases sight with
      | directory => rfl
      | file file => exact absurd trivial fits
      | link path => exact absurd trivial fits
      | nullDevice => exact absurd trivial fits
  · rwa [overlay.kept loc (by simpa using here)]

/-- A step that does not clash leaves the ways after it ready to be copied. -/
theorem Ready.step (ready : fs.Ready source target (way :: rest))
    (overlay : fs.Overlaid source target [way] later)
    (fits : ¬ Clash (fs.sight? (way ++ source)) (fs.sight? (way ++ target))) :
    later.Ready source target rest where
  plain := overlay.plain
  present := by
    intro other mem
    rw [Ne, overlay.entry?_source_eq_none_iff apart]
    exact ready.present other (List.mem_cons_of_mem _ mem)
  checkedSource other mem := ready.checkedSource other (List.mem_cons_of_mem _ mem)
  checkedTarget other mem := ready.checkedTarget other (List.mem_cons_of_mem _ mem)
  ordered := ready.ordered.of_cons
  rooted := by
    -- Either the directory was there, and no step removes one, or it is one of the ways.
    intro other mem
    rcases ready.rooted other (List.mem_cons_of_mem _ mem) with place | ⟨notNil, before⟩
    · left
      cases dest : other ++ target with
      | nil => trivial
      | cons name parent =>
        rw [dest] at place
        exact ⟨place.1, overlay.entry?_directory fits place.2⟩
    · rcases List.mem_cons.1 before with same | later
      · -- The directory that is to hold it has just been copied.
        left
        obtain ⟨name, rfl⟩ : ∃ name, other = name :: way := by
          cases other with
          | nil => exact absurd rfl notNil
          | cons name parent => exact ⟨name, by rw [← same, List.tail_cons]⟩
        obtain ⟨found, stands⟩ := Option.ne_none_iff_exists'.1
          (ready.present (name :: way) (List.mem_cons_of_mem _ mem))
        have dir : fs.entry? (way ++ source) = some .directory := entry?_parent stands
        refine ⟨(isPlace_of_entry stands).1, sight?_eq_directory_iff.1 ?_⟩
        have seen := overlay.laid way (List.mem_singleton_self way)
        rwa [sight?_eq_directory_iff.2 dir] at seen
      · exact .inr ⟨notNil, later⟩

/-- What is laid over the target in two runs is laid over it in one. -/
theorem Overlaid.cons {last : FileSystem} (fresh : way ∉ rest)
    (first : fs.Overlaid source target [way] later)
    (second : later.Overlaid source target rest last) :
    fs.Overlaid source target (way :: rest) last where
  plain := second.plain
  laid := by
    intro other mem
    rcases List.mem_cons.1 mem with rfl | inRest
    · -- The later run has not come to this way.
      rw [second.sight?_target fresh]
      exact first.laid other (List.mem_singleton_self other)
    · have notFirst : other ∉ [way] := by
        rw [List.mem_singleton]
        rintro rfl
        exact fresh inRest
      rw [second.laid other inRest, first.sight?_source apart, first.sight?_target notFirst]
  kept := by
    intro loc other
    rw [second.kept loc fun way mem => other way (List.mem_cons_of_mem _ mem)]
    refine first.kept loc fun copied mem => ?_
    rw [List.mem_singleton.1 mem]
    exact other way List.mem_cons_self

/-- What clashes at a way that is still to be copied clashed there before. -/
private theorem clash_iff (overlay : fs.Overlaid source target [way] later) {other : Location}
    (different : other ≠ way) :
    Clash (later.sight? (other ++ source)) (later.sight? (other ++ target)) ↔
      Clash (fs.sight? (other ++ source)) (fs.sight? (other ++ target)) := by
  rw [overlay.sight?_source apart, overlay.sight?_target (by simpa using different)]

/-- A run in which nothing clashes succeeds. It counts the files among what it copies, and lays
what is seen in the source over the target. -/
theorem Ready.overlaid (ready : fs.Ready source target ways)
    (fits : ∀ way ∈ ways, ¬ Clash (fs.sight? (way ++ source)) (fs.sight? (way ++ target))) :
    (copyWays source target ways fs).result =
        .ok (ways.countP fun way => fs.isFile (way ++ source)) ∧
      fs.Overlaid source target ways (copyWays source target ways fs).files := by
  induction ways generalizing fs with
  | nil => exact ⟨rfl, .nil ready.plain⟩
  | cons way rest ih =>
    have fitsHere := fits way List.mem_cons_self
    obtain ⟨copied, overlay⟩ := ready.head apart fitsHere
    have fresh : ∀ other ∈ rest, other ≠ way := ready.ne_head
    have onward : ∀ other ∈ rest, ¬ Clash _ _ := fun other mem =>
      (clash_iff apart overlay (fresh other mem)).not.2 (fits other (List.mem_cons_of_mem _ mem))
    obtain ⟨copiedRest, overlayRest⟩ := ih (ready.step apart overlay fitsHere) onward
    have sameFiles : ∀ other ∈ rest,
        (fs.copyAt source target way).files.isFile (other ++ source) =
          fs.isFile (other ++ source) :=
      fun other _ => isFile_congr (overlay.sight?_source apart other)
    -- The first step counts one for a file and nothing for a directory.
    rw [copyWays, Copied.andThen_of_ok copied, copiedRest, List.countP_cons]
    refine ⟨?_, overlay.cons apart (fun mem => fresh way mem rfl) overlayRest⟩
    rw [List.countP_congr fun other mem => by rw [sameFiles other mem]]
    rw [Except.map, Nat.add_comm]
    cases fs.isFile (way ++ source) <;> rfl

/-- A run, whether it succeeds or not, changes nothing but what is at the ways below the target. -/
theorem Ready.kept (ready : fs.Ready source target ways)
    (outside : ∀ way ∈ ways, loc ≠ way ++ target) :
    (copyWays source target ways fs).files.sight? loc = fs.sight? loc := by
  induction ways generalizing fs with
  | nil => rfl
  | cons way rest ih =>
    rw [copyWays]
    by_cases clash : Clash (fs.sight? (way ++ source)) (fs.sight? (way ++ target))
    · obtain ⟨unchanged, fault, failed, -⟩ := ready.head_clash clash
      rw [Copied.andThen_of_error failed, unchanged]
    · obtain ⟨first, overlay⟩ := ready.head apart clash
      have here : ∀ other ∈ [way], loc ≠ other ++ target := by
        intro other mem
        rw [List.mem_singleton.1 mem]
        exact outside way List.mem_cons_self
      have onward := ih (ready.step apart overlay clash) fun other mem =>
        outside other (List.mem_cons_of_mem _ mem)
      rw [Copied.andThen_of_ok first]
      exact onward.trans (overlay.kept loc here)

/-- Where a run succeeds, its first step has succeeded, and so has the run of the other steps. -/
theorem Ready.head_of_run (ready : fs.Ready source target (way :: rest)) {count : Nat}
    (copied : (copyWays source target (way :: rest) fs).result = .ok count) :
    ¬ Clash (fs.sight? (way ++ source)) (fs.sight? (way ++ target)) ∧
      fs.Overlaid source target [way] (fs.copyAt source target way).files ∧
      (fs.copyAt source target way).files.Ready source target rest ∧
      ∃ count, (copyWays source target rest (fs.copyAt source target way).files).result =
        .ok count := by
  rw [copyWays] at copied
  by_cases clash : Clash (fs.sight? (way ++ source)) (fs.sight? (way ++ target))
  · obtain ⟨-, fault, failed, -⟩ := ready.head_clash clash
    rw [Copied.andThen_of_error failed, failed] at copied
    cases copied
  · obtain ⟨first, overlay⟩ := ready.head apart clash
    refine ⟨clash, overlay, ready.step apart overlay clash, ?_⟩
    rw [Copied.andThen_of_ok first] at copied
    cases others : (copyWays source target rest (fs.copyAt source target way).files).result with
    | error fault => simp [others, Except.map] at copied
    | ok count => exact ⟨count, rfl⟩

/-- A run that succeeds has met nothing that clashes. -/
theorem Ready.not_clash (ready : fs.Ready source target ways) {count : Nat}
    (copied : (copyWays source target ways fs).result = .ok count) :
    ∀ way ∈ ways, ¬ Clash (fs.sight? (way ++ source)) (fs.sight? (way ++ target)) := by
  induction ways generalizing fs count with
  | nil => simp
  | cons way rest ih =>
    obtain ⟨fits, overlay, readyRest, _, copiedRest⟩ := ready.head_of_run apart copied
    intro other mem
    rcases List.mem_cons.1 mem with rfl | inRest
    · exact fits
    · rw [← clash_iff apart overlay (ready.ne_head other inRest)]
      exact ih readyRest copiedRest other inRest

end Overlaid

end LineShell.FileSystem
