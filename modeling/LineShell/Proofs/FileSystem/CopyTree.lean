import LineShell.Proofs.FileSystem.Overlay

/-!
# Copying a tree

The recursive copy descends into directories and goes through the names in each. On the paths that
spell locations it is the same as copying along the list of all ways below the source
(`copyLevels_eq_copyWays`), and so what holds of runs of single steps holds of it. For a directory
and a place to copy it to that keep apart (`Copyable`), `Copyable.exists_ok_iff` and
`Copyable.laid_of_ok` say when the copy succeeds and what it does. Where no device is met, the tree is
laid over its destination (`copyTree_lays_over`); the device is a file of its own kind
(`not_laysOver_device`).
-/

namespace LineShell.FileSystem

open LineShell.Path (ofLocation)

variable {fs later : FileSystem} {source target loc way parent : Location} {name : Name}
  {found : Entry} {ways rest front : List Location} {depth : Nat}

theorem copyWays_append (front rest : List Location) (fs : FileSystem) :
    copyWays source target (front ++ rest) fs =
      (copyWays source target front fs).andThen (copyWays source target rest) := by
  induction front generalizing fs with
  | nil => exact (Copied.nothing_andThen fs _).symm
  | cons way front ih =>
    rw [List.cons_append, copyWays, copyWays, Copied.andThen_assoc]
    exact Copied.andThen_congr fun _ _ => ih _

theorem copyWays_singleton (fs : FileSystem) :
    copyWays source target [way] fs = fs.copyAt source target way :=
  Copied.andThen_nothing

/-! ## Parts of a run -/

/-- What is ready to be copied is so up to any point. -/
theorem Ready.of_append (ready : fs.Ready source target (front ++ rest)) :
    fs.Ready source target front where
  plain := ready.plain
  present way mem := ready.present way (List.mem_append_left _ mem)
  checkedSource way mem := ready.checkedSource way (List.mem_append_left _ mem)
  checkedTarget way mem := ready.checkedTarget way (List.mem_append_left _ mem)
  ordered := (List.pairwise_append.1 ready.ordered).1
  rooted := by
    intro way mem
    rcases ready.rooted way (List.mem_append_left _ mem) with place | ⟨notNil, before⟩
    · exact .inl place
    · rcases List.mem_append.1 before with inFront | inRest
      · exact .inr ⟨notNil, inFront⟩
      · -- What holds an entry comes before it, so it is not among the ways that follow.
        have after := (List.pairwise_append.1 ready.ordered).2.2 way mem _ inRest
        exact absurd (precedes_of_ne_nil notNil) after.asymm

section Descent

variable (apart : ∀ a b : Location, a ++ source ≠ b ++ target)

include apart

/-- What has not been copied when a run has come to a point is ready to be copied next. -/
theorem Ready.after (ready : fs.Ready source target (front ++ rest)) {count : Nat}
    (copied : (copyWays source target front fs).result = .ok count) :
    (copyWays source target front fs).files.Ready source target rest := by
  induction front generalizing fs count with
  | nil => exact ready
  | cons way front ih =>
    obtain ⟨fits, overlay, -, _, copiedFront⟩ :=
      (show fs.Ready source target (way :: front) from ready.of_append).head_of_run apart copied
    have onward := ih (ready.step apart overlay fits) copiedFront
    obtain ⟨_, first⟩ : ∃ count, (fs.copyAt source target way).result = .ok count :=
      ⟨_, (ready.head apart fits).1⟩
    rwa [copyWays, Copied.andThen_of_ok first]

/-- A run that succeeds leaves the entries of the source. -/
theorem Ready.entry?_source_eq_none_iff (ready : fs.Ready source target ways) {count : Nat}
    (copied : (copyWays source target ways fs).result = .ok count) (way : Location) :
    entry? (copyWays source target ways fs).files (way ++ source) = none ↔
      fs.entry? (way ++ source) = none :=
  (ready.overlaid apart (ready.not_clash apart copied)).2.entry?_source_eq_none_iff apart way

/-! ## The descent -/

omit apart in
/-- File systems that have entries at the same locations below the source list the same names. -/
private theorem names_of_same
    (same : ∀ other, later.entry? (other ++ source) = none ↔ fs.entry? (other ++ source) = none)
    (way : Location) : later.names (way ++ source) = fs.names (way ++ source) :=
  names_congr fun name => same (name :: way)

omit apart in
/-- The only way from an entry that is no directory is the one to it. -/
private theorem ways_of_not_directory
    (same : ∀ other, later.entry? (other ++ source) = none ↔ fs.entry? (other ++ source) = none)
    (notDir : later.entry? (way ++ source) ≠ some .directory) (depth : Nat) :
    fs.ways source depth way = [way] := by
  cases depth with
  | zero => rfl
  | succ depth =>
    have none : later.names (way ++ source) = [] := by
      rw [List.eq_nil_iff_forall_not_mem]
      intro name mem
      obtain ⟨found, stands⟩ := Option.ne_none_iff_exists'.1 (mem_names_iff.1 mem)
      exact notDir (entry?_parent stands)
    rw [ways, ← names_of_same same, none, List.flatMap_nil]

/-- One level of a copy makes the directory and goes through the names in it. -/
private theorem copyLevel_eq (ready : fs.Ready source target (way :: rest))
    (dir : fs.entry? (way ++ source) = some .directory)
    (descend : FileSystem → Path → Path → Copied) :
    fs.copyLevel descend (ofLocation (way ++ source)) (ofLocation (way ++ target)) =
      (fs.copyAt source target way).andThen
        (copyEntries descend (ofLocation (way ++ source)) (ofLocation (way ++ target))
          (fs.names (way ++ source))) := by
  have checked := ready.checkedSource way List.mem_cons_self
  rw [copyLevel, ← copyAt_of_directory ready.plain checked dir]
  refine Copied.andThen_congr fun count copied => ?_
  have copiedHere : (copyWays source target [way] fs).result = .ok count := by
    rwa [copyWays_singleton]
  have readyHere : fs.Ready source target [way] :=
    (show fs.Ready source target ([way] ++ rest) from ready).of_append
  obtain ⟨-, overlay, -⟩ := readyHere.head_of_run apart copiedHere
  have dirLater : entry? (fs.copyAt source target way).files (way ++ source) =
      some .directory := by
    rw [← sight?_eq_directory_iff, overlay.sight?_source apart, sight?_eq_directory_iff, dir]
  -- The target has been made by now, and that has added no name to the source.
  have names : (fs.copyAt source target way).files.names (way ++ source) =
      fs.names (way ++ source) :=
    names_congr fun name => overlay.entry?_source_eq_none_iff apart (name :: way)
  rw [fill, list_ofLocation checked dirLater, names]

variable (steps : ∀ name ∈ target, Name.IsStep name)

include steps

omit apart in
/-- The path to an entry below the source or the target spells the location there. -/
private theorem entry_paths (present : fs.entry? (name :: way ++ source) ≠ none) :
    (ofLocation (way ++ source)).entry name = ofLocation (name :: way ++ source) ∧
      (ofLocation (way ++ target)).entry name = ofLocation (name :: way ++ target) := by
  obtain ⟨found, stands⟩ := Option.ne_none_iff_exists'.1 present
  have place : fs.IsPlace (name :: (way ++ source)) := isPlace_of_entry stands
  have areSteps := place.isStep
  have first : Name.IsStep name := areSteps name List.mem_cons_self
  refine ⟨Path.entry_ofLocation first fun other mem => areSteps other (List.mem_cons_of_mem _ mem),
    Path.entry_ofLocation first fun other mem => ?_⟩
  rcases List.mem_append.1 mem with onWay | above
  · exact areSteps other (List.mem_cons_of_mem _ (List.mem_append_left _ onWay))
  · exact steps other above

/-- The loop over the names in a directory copies along the ways through them, if the copy of each
directory among them does. -/
private theorem copyEntries_eq {names : List Name}
    (descent : ∀ (later : FileSystem) (name : Name),
      later.Ready source target (fs.ways source depth (name :: way)) →
      (∀ other, later.entry? (other ++ source) = none ↔ fs.entry? (other ++ source) = none) →
      later.entry? (name :: way ++ source) = some .directory →
      later.copyLevels depth (ofLocation (name :: way ++ source))
          (ofLocation (name :: way ++ target)) =
        copyWays source target (fs.ways source depth (name :: way)) later)
    (ready : later.Ready source target
      (names.flatMap fun name => fs.ways source depth (name :: way)))
    (same : ∀ other, later.entry? (other ++ source) = none ↔ fs.entry? (other ++ source) = none) :
    copyEntries (copyLevels depth) (ofLocation (way ++ source)) (ofLocation (way ++ target)) names
        later =
      copyWays source target (names.flatMap fun name => fs.ways source depth (name :: way))
        later := by
  induction names generalizing later with
  | nil => rfl
  | cons name names ih =>
    rw [List.flatMap_cons] at ready ⊢
    have readyHere := ready.of_append
    have here : name :: way ∈ fs.ways source depth (name :: way) := mem_ways_self
    have present := readyHere.present (name :: way) here
    obtain ⟨found, stands⟩ := Option.ne_none_iff_exists'.1 present
    have checked := readyHere.checkedSource (name :: way) here
    obtain ⟨item, place⟩ := entry_paths steps present
    have first : (if later.isDirectory (ofLocation (name :: way ++ source)) then
          later.copyLevels depth (ofLocation (name :: way ++ source))
            (ofLocation (name :: way ++ target))
        else later.copyOver (ofLocation (name :: way ++ source))
          (ofLocation (name :: way ++ target))) =
        copyWays source target (fs.ways source depth (name :: way)) later := by
      have isDir := isDirectory_ofLocation (isPlace_of_entry stands) checked
        (readyHere.plain.noLink _)
      -- The loop descends exactly where a way goes on.
      by_cases dir : later.entry? (name :: way ++ source) = some .directory
      · rw [if_pos (isDir.2 dir), descent later name readyHere same dir]
      · have notDir : found ≠ .directory := by
          rintro rfl
          exact dir stands
        rw [if_neg (isDir.not.2 dir), ways_of_not_directory same dir, copyWays_singleton,
          copyAt_of_not_directory readyHere.plain checked stands notDir]
    rw [copyEntries, copyWays_append, item, place, first]
    -- The names that are left are copied from the files that the first one leaves.
    refine Copied.andThen_congr fun count copied => ih (ready.after apart copied) fun other => ?_
    rw [readyHere.entry?_source_eq_none_iff apart copied, same]

/-- The recursive copy of a directory copies along the ways from it, if it is allowed to descend
far enough. -/
theorem copyLevels_eq_copyWays {limit : Nat}
    (shallow : ∀ other, fs.entry? (other ++ source) ≠ none → other.length ≤ limit)
    (enough : way.length + depth = limit)
    (ready : later.Ready source target (fs.ways source depth way))
    (same : ∀ other, later.entry? (other ++ source) = none ↔ fs.entry? (other ++ source) = none)
    (dir : later.entry? (way ++ source) = some .directory) :
    later.copyLevels depth (ofLocation (way ++ source)) (ofLocation (way ++ target)) =
      copyWays source target (fs.ways source depth way) later := by
  -- The induction goes down the tree: `enough` says that the levels left reach to its end.
  induction depth generalizing later way with
  | zero =>
    have noNames : fs.names (way ++ source) = [] := by
      rw [List.eq_nil_iff_forall_not_mem]
      intro name mem
      have tooDeep := shallow (name :: way) (mem_names_iff.1 mem)
      rw [List.length_cons] at tooDeep
      omega
    rw [copyLevels, copyLevel_eq apart ready dir, names_of_same same, noNames]
    rfl
  | succ depth ih =>
    rw [ways] at ready ⊢
    rw [copyLevels, copyLevel_eq apart ready dir, names_of_same same, copyWays]
    refine Copied.andThen_congr fun count copied => ?_
    have copiedHere : (copyWays source target [way] later).result = .ok count := by
      rwa [copyWays_singleton]
    -- The directory itself is the first of the ways, and is there when the loop starts.
    have readyAll : later.Ready source target ([way] ++ _) := ready
    have readyRest := readyAll.after apart copiedHere
    rw [copyWays_singleton] at readyRest
    refine copyEntries_eq apart steps ?_ readyRest ?_
    · intro later name ready same dir
      have longer : (name :: way).length + depth = limit := by
        rw [List.length_cons]
        omega
      exact ih longer ready same dir
    · intro other
      have kept := readyAll.of_append.entry?_source_eq_none_iff apart copiedHere other
      rw [copyWays_singleton] at kept
      rw [kept, same]

end Descent

/-! ## What can be copied -/

/-- A path is short enough to be looked up, and so are the names in it. -/
def IsWithinLimits (path : Path) : Prop :=
  checkPath path = .ok () ∧ ∀ name ∈ path.location, name.length ≤ maxNameLength

/-- The paths to the end of a way below a source and below a destination are within the limits. -/
def WayWithinLimits (source destination : Path) (way : Location) : Prop :=
  IsWithinLimits (ofLocation (way ++ source.location)) ∧
    IsWithinLimits (ofLocation (way ++ destination.location))

/-- A directory and a place to copy it to, in a plain file system: both are given by absolute normal
paths, neither of which begins with the other, and no path to be copied from or to is too long. -/
structure Copyable (fs : FileSystem) (source destination : Path) : Prop where
  /-- There are no links and no shared files. -/
  plain : fs.IsPlain
  /-- The source is absolute. -/
  absolute_source : source.isAbsolute = true
  /-- The source is normal. -/
  normal_source : source.normalize = source
  /-- The destination is absolute. -/
  absolute_destination : destination.isAbsolute = true
  /-- The destination is normal. -/
  normal_destination : destination.normalize = destination
  /-- The source is not below the destination. -/
  source_apart : source.startsWith destination = false
  /-- The destination is not below the source. -/
  destination_apart : destination.startsWith source = false
  /-- The source is a directory. -/
  directory : fs.entry? source.location = some .directory
  /-- There is a directory to hold the destination, whether it is there already or not. -/
  room : fs.entry? destination.location.tail = some .directory
  /-- What is below the source has paths within the limits, there and below the destination. -/
  within : ∀ way, fs.entry? (way ++ source.location) ≠ none →
    WayWithinLimits source destination way

/-- Whether something holds of all that is below an entry can be read off the list of entries. -/
private theorem forall_below_iff {P : Location → Prop} (start : fs.entry? loc ≠ none) :
    (∀ way, fs.entry? (way ++ loc) ≠ none → P way) ↔
      P [] ∧ ∀ row ∈ fs.toList, loc <:+ row.1 → P (row.1.take (row.1.length - loc.length)) := by
  have taken : ∀ way : Location, (way ++ loc).take ((way ++ loc).length - loc.length) = way := by
    intro way
    rw [List.length_append, Nat.add_sub_cancel, List.take_left]
  constructor
  · intro all
    refine ⟨all [] start, ?_⟩
    rintro ⟨other, found⟩ mem ⟨way, rfl⟩
    have present : fs.entry? (way ++ loc) ≠ none := by simp [(mem_toList_iff.1 mem).2]
    simpa only [taken] using all way present
  · rintro ⟨here, listed⟩ way present
    obtain ⟨found, stands⟩ := Option.ne_none_iff_exists'.1 present
    by_cases root : way ++ loc = []
    · rwa [(List.append_eq_nil_iff.1 root).1]
    · have mem : (way ++ loc, found) ∈ fs.toList := mem_toList_iff.2 ⟨root, stands⟩
      simpa only [taken] using listed _ mem (List.suffix_append way loc)

/-- Whether a tree can be copied to a place can be read off the list of entries. -/
private theorem copyable_iff {source destination : Path} :
    fs.Copyable source destination ↔
      (fs.IsPlain ∧
        (source.isAbsolute = true ∧ source.normalize = source) ∧
        (destination.isAbsolute = true ∧ destination.normalize = destination) ∧
        (source.startsWith destination = false ∧ destination.startsWith source = false) ∧
        fs.entry? destination.location.tail = some .directory) ∧
      fs.entry? source.location = some .directory ∧
      WayWithinLimits source destination [] ∧
      ∀ row ∈ fs.toList, source.location <:+ row.1 →
        WayWithinLimits source destination (row.1.take (row.1.length - source.location.length)) := by
  constructor
  · intro setting
    have start : fs.entry? source.location ≠ none := by simp [setting.directory]
    exact ⟨⟨setting.plain, ⟨setting.absolute_source, setting.normal_source⟩,
      ⟨setting.absolute_destination, setting.normal_destination⟩,
      ⟨setting.source_apart, setting.destination_apart⟩, setting.room⟩, setting.directory,
      (forall_below_iff start).1 setting.within⟩
  · rintro ⟨⟨plain, ⟨absolute, normal⟩, ⟨absolute', normal'⟩, ⟨apart, apart'⟩, room⟩, dir, within⟩
    have start : fs.entry? source.location ≠ none := by simp [dir]
    exact ⟨plain, absolute, normal, absolute', normal', apart, apart', dir, room,
      (forall_below_iff start).2 within⟩

instance (path : Path) : Decidable (IsWithinLimits path) :=
  inferInstanceAs (Decidable (_ ∧ _))

instance (source destination : Path) (way : Location) :
    Decidable (WayWithinLimits source destination way) :=
  inferInstanceAs (Decidable (_ ∧ _))

instance (fs : FileSystem) (source destination : Path) :
    Decidable (fs.Copyable source destination) :=
  decidable_of_iff _ copyable_iff.symm

/-- The ways from a directory to all that is copied with it. -/
def copiedWays (fs : FileSystem) (source destination : Path) : List Location :=
  fs.ways source.location (maxPathLength - destination.bytes.length) []

namespace Copyable

variable {source destination : Path} (setting : fs.Copyable source destination)

include setting

theorem eq_source : source = ofLocation source.location :=
  (Path.eq_ofLocation_location setting.absolute_source setting.normal_source).2

theorem eq_destination : destination = ofLocation destination.location :=
  (Path.eq_ofLocation_location setting.absolute_destination setting.normal_destination).2

theorem isStep_source : ∀ name ∈ source.location, Name.IsStep name :=
  (Path.eq_ofLocation_location setting.absolute_source setting.normal_source).1

theorem isStep_destination : ∀ name ∈ destination.location, Name.IsStep name :=
  (Path.eq_ofLocation_location setting.absolute_destination setting.normal_destination).1

/-- What is below the source is not below the destination. -/
theorem apart (a b : Location) : a ++ source.location ≠ b ++ destination.location := by
  have notBelow := setting.source_apart
  have notAbove := setting.destination_apart
  rw [setting.eq_source, setting.eq_destination, Bool.eq_false_iff, Ne,
    Path.startsWith_ofLocation setting.isStep_source setting.isStep_destination] at notBelow
  rw [setting.eq_source, setting.eq_destination, Bool.eq_false_iff, Ne,
    Path.startsWith_ofLocation setting.isStep_destination setting.isStep_source] at notAbove
  intro same
  -- Two locations above a common one are above each other.
  have source : source.location <:+ b ++ destination.location := ⟨a, same⟩
  have destination : destination.location <:+ b ++ destination.location := List.suffix_append _ _
  rcases List.suffix_or_suffix_of_suffix source destination with below | above
  · exact notAbove below
  · exact notBelow above

theorem isPlace_destination : fs.IsPlace destination.location := by
  have room := setting.room
  have isStep := setting.isStep_destination
  obtain ⟨-, checked, short⟩ := setting.within [] (by simp [setting.directory])
  rw [List.nil_append] at checked short
  rw [Path.location_ofLocation isStep] at short
  cases dest : destination.location with
  | nil => trivial
  | cons name parent =>
    rw [dest] at room isStep checked short
    have here : name ∈ name :: parent := List.mem_cons_self
    -- A name that a normal path spells is valid if it is short and has no zero byte.
    have noZero : 0 ∉ name := fun zero =>
      (checkPath_eq_ok_iff.1 checked).1 (Path.mem_bytes_ofLocation here zero)
    exact ⟨(isStep name here).isValid noZero (short name here), room⟩

/-- No entry is so far below the source that the copy would not get there. -/
theorem length_le (way : Location) (present : fs.entry? (way ++ source.location) ≠ none) :
    way.length ≤ maxPathLength - destination.bytes.length := by
  obtain ⟨found, stands⟩ := Option.ne_none_iff_exists'.1 present
  obtain ⟨-, checked, -⟩ := setting.within way present
  have notNil : ∀ name ∈ way, name ≠ [] := fun name mem =>
    ((isPlace_of_entry stands).isStep name (List.mem_append_left _ mem)).ne_nil
  have longer : (ofLocation destination.location).bytes.length + way.length ≤
      (ofLocation (way ++ destination.location)).bytes.length :=
    Path.length_ofLocation_append notNil
  -- A level adds at least one byte to the path of the destination.
  have short := (checkPath_eq_ok_iff.1 checked).2.2
  rw [← setting.eq_destination] at longer
  omega

/-- The list of ways is that of all entries below the source. -/
theorem mem_copiedWays :
    way ∈ fs.copiedWays source destination ↔ fs.entry? (way ++ source.location) ≠ none := by
  have start : fs.entry? ([] ++ source.location) ≠ none := by simp [setting.directory]
  rw [copiedWays, mem_ways start]
  constructor
  · rintro ⟨-, -, present⟩
    exact present
  · intro present
    refine ⟨List.nil_suffix, ?_, present⟩
    rw [List.length_nil, Nat.zero_add]
    exact setting.length_le way present

theorem ready : fs.Ready source.location destination.location
    (fs.copiedWays source destination) where
  plain := setting.plain
  present way mem := setting.mem_copiedWays.1 mem
  checkedSource way mem := (setting.within way (setting.mem_copiedWays.1 mem)).1.1
  checkedTarget way mem := (setting.within way (setting.mem_copiedWays.1 mem)).2.1
  ordered := pairwise_ways _ _ _ _
  rooted := by
    intro way mem
    cases way with
    | nil => exact .inl setting.isPlace_destination
    | cons name parent =>
      have present := setting.mem_copiedWays.1 mem
      have above : fs.entry? (parent ++ source.location) ≠ none :=
        entry?_ne_none_of_append [name] present
      exact .inr ⟨List.cons_ne_nil name parent, setting.mem_copiedWays.2 above⟩

/-- The copy of a tree goes along the ways to all that is below the source. -/
theorem copyTree_eq_copyWays : fs.copyTree source destination =
    copyWays source.location destination.location (fs.copiedWays source destination) fs := by
  have descent : fs.copyLevels (maxPathLength - destination.bytes.length)
      (ofLocation ([] ++ source.location)) (ofLocation ([] ++ destination.location)) =
        copyWays source.location destination.location (fs.copiedWays source destination) fs :=
    copyLevels_eq_copyWays setting.apart setting.isStep_destination setting.length_le
      (Nat.zero_add _) setting.ready (fun _ => Iff.rfl) setting.directory
  rwa [List.nil_append, List.nil_append, ← setting.eq_source, ← setting.eq_destination] at descent

/-- What is not below the destination is seen as before, also where the copy fails. -/
theorem sight?_copyTree (outside : ¬ destination.location <:+ loc) :
    (fs.copyTree source destination).files.sight? loc = fs.sight? loc := by
  rw [setting.copyTree_eq_copyWays]
  refine setting.ready.kept setting.apart fun way _ inside => outside ?_
  rw [inside]
  exact List.suffix_append _ _

/-- Where the source has nothing, nothing clashes; so it is enough to look at the ways copied. -/
theorem forall_not_clash_iff :
    (∀ way ∈ fs.copiedWays source destination,
      ¬ Clash (fs.sight? (way ++ source.location)) (fs.sight? (way ++ destination.location))) ↔
    ∀ way, ¬ Clash (fs.sight? (way ++ source.location))
      (fs.sight? (way ++ destination.location)) := by
  constructor
  · intro fits way
    by_cases absent : fs.entry? (way ++ source.location) = none
    · rw [sight?_eq_none_iff.2 absent]
      exact not_false
    · exact fits way (setting.mem_copiedWays.2 absent)
  · exact fun fits way _ => fits way

/-- The copy succeeds if nowhere in the tree something clashes with what is in its place. -/
theorem exists_ok_iff :
    (∃ count, (fs.copyTree source destination).result = .ok count) ↔
      ∀ way, ¬ Clash (fs.sight? (way ++ source.location))
        (fs.sight? (way ++ destination.location)) := by
  rw [setting.copyTree_eq_copyWays, ← setting.forall_not_clash_iff]
  constructor
  · rintro ⟨count, copied⟩
    exact setting.ready.not_clash setting.apart copied
  · exact fun fits => ⟨_, (setting.ready.overlaid setting.apart fits).1⟩

/-- A copy that succeeds counts the files in the tree and lays what is seen of each entry over what
was seen in its place. -/
theorem laid_of_ok {count : Nat} (copied : (fs.copyTree source destination).result = .ok count) :
    count = fs.fileCount source.location ∧
      ∀ way, (fs.copyTree source destination).files.sight? (way ++ destination.location) =
        laidOver (fs.sight? (way ++ source.location))
          (fs.sight? (way ++ destination.location)) := by
  rw [setting.copyTree_eq_copyWays] at copied ⊢
  -- A copy that succeeds has met nothing that clashes, so the run lemma applies.
  obtain ⟨counted, overlay⟩ :=
    setting.ready.overlaid setting.apart (setting.ready.not_clash setting.apart copied)
  have start : fs.entry? source.location ≠ none := by simp [setting.directory]
  constructor
  · rw [← countP_ways start setting.length_le]
    exact Except.ok.inj (copied.symm.trans counted)
  · intro way
    by_cases absent : fs.entry? (way ++ source.location) = none
    · have notCopied : way ∉ fs.copiedWays source destination := by
        rwa [setting.mem_copiedWays, not_not]
      rw [overlay.sight?_target notCopied, sight?_eq_none_iff.2 absent]
      rfl
    · exact overlay.laid way (setting.mem_copiedWays.2 absent)

end Copyable

/-! ## The overlay law -/

/-- One of two things that are seen is a file and the other a directory. -/
inductive Conflict : Option Sight → Option Sight → Prop
  | file_directory (file : File) : Conflict (some (.file file)) (some .directory)
  | directory_file (file : File) : Conflict (some .directory) (some (.file file))

/-- There is no conflict without a file. -/
theorem Conflict.exists_file {seen place : Option Sight} (h : Conflict seen place) :
    ∃ file, seen = some (.file file) ∨ place = some (.file file) := by
  cases h with
  | file_directory file => exact ⟨file, .inl rfl⟩
  | directory_file file => exact ⟨file, .inr rfl⟩

/-- What is seen in a place where directories and files have been copied to from what is seen in a
source. -/
def copiedOver : Option Sight → Option Sight → Option Sight
  | some .directory, _ => some .directory
  | some (.file file), _ => some (.file file)
  | _, place => place

/-- The copy of a tree lays its directories and files over the destination. -/
structure LaysOver (fs : FileSystem) (source destination : Path) : Prop where
  /-- The copy succeeds unless a file is to take the place of a directory, or a directory that of a
  file. -/
  succeeds_iff : (∃ count, (fs.copyTree source destination).result = .ok count) ↔
    ∀ way, ¬ Conflict (fs.sight? (way ++ source.location))
      (fs.sight? (way ++ destination.location))
  /-- It counts the files of the source. -/
  count_eq : ∀ count, (fs.copyTree source destination).result = .ok count →
    count = fs.fileCount source.location
  /-- Directories and files are at the destination where they are in the source, and what has no
  counterpart is what it was. -/
  copied : ∀ count, (fs.copyTree source destination).result = .ok count →
    ∀ way, (fs.copyTree source destination).files.sight? (way ++ destination.location) =
      copiedOver (fs.sight? (way ++ source.location)) (fs.sight? (way ++ destination.location))
  /-- What is not below the destination is what it was. -/
  kept : ∀ loc, ¬ destination.location <:+ loc →
    (fs.copyTree source destination).files.sight? loc = fs.sight? loc

/-- What is to be copied at the end of a way is not the device, and is not put in its place. -/
def NoDeviceAt (fs : FileSystem) (source destination : Path) (way : Location) : Prop :=
  fs.sight? (way ++ source.location) ≠ none →
    fs.sight? (way ++ source.location) ≠ some .nullDevice ∧
      fs.sight? (way ++ destination.location) ≠ some .nullDevice

/-- Where there is no device, none is met. -/
theorem noDeviceAt_of_toList (h : ∀ row ∈ fs.toList, row.2 ≠ .nullDevice)
    (source destination : Path) (way : Location) : fs.NoDeviceAt source destination way := by
  have none : ∀ loc, fs.sight? loc ≠ some .nullDevice := by
    intro loc seen
    obtain ⟨found, mem, isDevice⟩ := exists_mem_toList_of_sight? seen (by simp)
    cases found with
    | nullDevice => exact h _ mem rfl
    | _ => cases isDevice
  exact fun _ => ⟨none _, none _⟩

section NoDevice

variable {seen place : Option Sight}

/-- Where links and the device play no part, a directory and a file are what clashes. -/
theorem clash_iff_conflict (noLink : ∀ path, seen ≠ some (.link path))
    (noLinkThere : ∀ path, place ≠ some (.link path))
    (noDevice : seen ≠ none → seen ≠ some .nullDevice ∧ place ≠ some .nullDevice) :
    Clash seen place ↔ Conflict seen place := by
  constructor
  · intro clash
    rcases seen with _ | seen
    · exact clash.elim
    obtain ⟨notDevice, notThere⟩ := noDevice (Option.some_ne_none _)
    cases seen with
    | directory =>
      obtain ⟨present, notDir⟩ := clash_directory_iff.1 clash
      rcases place with _ | place
      · exact absurd rfl present
      cases place with
      | file file => exact .directory_file file
      | directory => exact absurd rfl notDir
      | link path => exact absurd rfl (noLinkThere path)
      | nullDevice => exact absurd rfl notThere
    | file file =>
      rw [clash_file_iff.1 clash]
      exact .file_directory file
    | link path => exact absurd rfl (noLink path)
    | nullDevice => exact absurd rfl notDevice
  · rintro (file | file)
    · trivial
    · trivial

/-- Only the device is not replaced by a file. -/
theorem laidOver_eq_copiedOver (noDevice : seen ≠ none → place ≠ some .nullDevice) :
    laidOver seen place = copiedOver seen place := by
  rcases seen with _ | seen
  · rfl
  have notThere := noDevice (Option.some_ne_none _)
  cases seen with
  | directory | link _ | nullDevice => rfl
  | file file =>
    rcases place with _ | place
    · rfl
    cases place with
    | nullDevice => exact absurd rfl notThere
    | directory | file _ | link _ => rfl

end NoDevice

theorem IsPlain.sight?_ne_link (plain : fs.IsPlain) (path : Path) :
    fs.sight? loc ≠ some (.link path) := by
  intro seen
  obtain ⟨found, stands, isLink⟩ := Option.map_eq_some_iff.1 seen
  cases found with
  | link target => exact plain.noLink loc target stands
  | _ => cases isLink

/-- Where the copy of a tree does not meet the device, it lays the tree over its destination. -/
theorem copyTree_lays_over {source destination : Path}
    (setting : fs.Copyable source destination)
    (noDevice : ∀ way, fs.NoDeviceAt source destination way) :
    fs.LaysOver source destination where
  succeeds_iff := by
    rw [setting.exists_ok_iff]
    exact forall_congr' fun way => (clash_iff_conflict setting.plain.sight?_ne_link
      setting.plain.sight?_ne_link (noDevice way)).not
  count_eq _ copied := (setting.laid_of_ok copied).1
  copied _ copied way := by
    rw [(setting.laid_of_ok copied).2, laidOver_eq_copiedOver fun present => (noDevice way present).2]
  kept _ outside := setting.sight?_copyTree outside

/-- Two trees: `a` holds a file `f` and a directory `d` with a file `g` that may be run, and `b`
holds files `f` and `k` of its own. -/
def twoTrees : FileSystem :=
  let a : Name := Text.encode "a"
  let b : Name := Text.encode "b"
  let d : Name := Text.encode "d"
  let directories := ((empty.add [] a .directory).add [a] d .directory).add [] b .directory
  let source := (directories.addFile [a] (Text.encode "f") ⟨[1], false⟩).addFile [d, a]
    (Text.encode "g") ⟨[2], true⟩
  (source.addFile [b] (Text.encode "f") ⟨[3], false⟩).addFile [b] (Text.encode "k") ⟨[4], false⟩

theorem copyTree_lays_over_twoTrees :
    let a := Path.ofString "/a"
    let b := Path.ofString "/b"
    twoTrees.Copyable a b ∧ (∀ way, twoTrees.NoDeviceAt a b way) ∧
      (twoTrees.copyTree a b).result = .ok 2 ∧
      (twoTrees.copyTree a b).files.sight? [Text.encode "f", Text.encode "b"] =
        some (.file ⟨[1], false⟩) := by
  have setting : twoTrees.Copyable (Path.ofString "/a") (Path.ofString "/b") := by decide +kernel
  have noDevice : ∀ source destination way, twoTrees.NoDeviceAt source destination way :=
    noDeviceAt_of_toList (by decide +kernel)
  have copied : (twoTrees.copyTree (Path.ofString "/a") (Path.ofString "/b")).result = .ok 2 := by
    decide +kernel
  refine ⟨setting, noDevice _ _, copied, ?_⟩
  have laid := (copyTree_lays_over setting (noDevice _ _)).copied 2 copied [Text.encode "f"]
  refine Eq.trans laid ?_
  decide +kernel

/-- A directory `a` that holds the device `n`, and an empty directory `b`. -/
def deviceInSource : FileSystem :=
  let directories := (empty.add [] (Text.encode "a") .directory).add [] (Text.encode "b") .directory
  directories.add [Text.encode "a"] (Text.encode "n") .nullDevice

/-- A directory `a` that holds a file `f`, and a directory `b` in which `f` is the device. -/
def deviceAtDestination : FileSystem :=
  let directories := (empty.add [] (Text.encode "a") .directory).add [] (Text.encode "b") .directory
  (directories.addFile [Text.encode "a"] (Text.encode "f") ⟨[1], false⟩).add [Text.encode "b"]
    (Text.encode "f") .nullDevice

/-- The device cannot be copied, though nothing in its place conflicts with it, and what is copied over
it does not take its place. -/
theorem not_laysOver_device :
    let a := Path.ofString "/a"
    let b := Path.ofString "/b"
    (deviceInSource.Copyable a b ∧ ¬ deviceInSource.LaysOver a b) ∧
      deviceAtDestination.Copyable a b ∧ ¬ deviceAtDestination.LaysOver a b := by
  intro a b
  refine ⟨⟨by decide +kernel, fun laysOver => ?_⟩, by decide +kernel, fun laysOver => ?_⟩
  · -- There is no file, so nothing conflicts, but the copy fails.
    have listed : ∀ row ∈ deviceInSource.toList, row.2.file? = none := by decide +kernel
    have noFile : ∀ loc file, deviceInSource.sight? loc ≠ some (.file file) := by
      intro loc file seen
      obtain ⟨found, mem, isFile⟩ := exists_mem_toList_of_sight? seen (by simp)
      cases found with
      | file id => cases listed _ mem
      | _ => cases isFile
    have failed : (deviceInSource.copyTree a b).result = .error .notAFile := by decide +kernel
    have fits : ∀ way, ¬ Conflict (deviceInSource.sight? (way ++ a.location))
        (deviceInSource.sight? (way ++ b.location)) := by
      intro way conflict
      obtain ⟨file, here | there⟩ := conflict.exists_file
      · exact noFile _ _ here
      · exact noFile _ _ there
    obtain ⟨count, copied⟩ := laysOver.succeeds_iff.2 fits
    cases failed.symm.trans copied
  · have copied : (deviceAtDestination.copyTree a b).result = .ok 1 := by decide +kernel
    have device : (deviceAtDestination.copyTree a b).files.sight? [Text.encode "f", Text.encode "b"] =
        some .nullDevice := by
      decide +kernel
    have file := laysOver.copied 1 copied [Text.encode "f"]
    rw [show [Text.encode "f"] ++ b.location = [Text.encode "f", Text.encode "b"] by decide +kernel,
      device] at file
    exact absurd file (by decide +kernel)

end LineShell.FileSystem
