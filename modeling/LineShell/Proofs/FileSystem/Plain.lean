import LineShell.Proofs.FileSystem.CopyFile

/-!
# Plain file systems

A file system is *plain* when it has no links and no two entries share a file. What can be seen of
a plain file system is then all that there is to it, and each change that a copy makes shows at one
location only:

- `sight?_add_directory`, `sight?_addFile`: the new entry is seen where it was put;
- `sight?_overwrite`: a file that is overwritten is seen with the new contents in one place.

All of them leave the file system plain.
-/

namespace LineShell

namespace Entry

/-- The path that a link holds, if an entry is one. -/
def link? : Entry → Option Path
  | .link target => some target
  | _ => none

theorem file?_eq_some_iff {found : Entry} {id : FileId} :
    found.file? = some id ↔ found = .file id := by
  cases found <;> simp [file?]

end Entry

namespace FileSystem

variable {fs : FileSystem} {loc parent : Location} {name : Name} {found : Entry}
  {id source other : FileId} {file : File}

/-- There are no links, and no two entries share a file. -/
structure IsPlain (fs : FileSystem) : Prop where
  /-- No entry is a link. -/
  noLink : ∀ (loc : Location) (target : Path), fs.entry? loc ≠ some (.link target)
  /-- A file belongs to one entry. -/
  unshared : ∀ (a b : Location) (id : FileId),
    fs.entry? a = some (.file id) → fs.entry? b = some (.file id) → a = b

/-- Whether a file system is plain can be read off the list of its entries. -/
theorem isPlain_iff :
    fs.IsPlain ↔ ∀ a ∈ fs.toList, Entry.link? a.2 = none ∧
      ∀ b ∈ fs.toList, ∀ id ∈ a.2.file?, b.2.file? = some id → a.1 = b.1 := by
  have listed : ∀ {loc : Location} {found : Entry}, fs.entry? loc = some found →
      found ≠ .directory → (loc, found) ∈ fs.toList := by
    intro loc found stands notDir
    refine mem_toList_iff.2 ⟨?_, stands⟩
    rintro rfl
    exact notDir (Option.some.inj stands).symm
  constructor
  · rintro plain ⟨a, found⟩ hfound
    have stands := (mem_toList_iff.1 hfound).2
    constructor
    · cases found with
      | link target => exact absurd stands (plain.noLink a target)
      | directory => rfl
      | file id => rfl
      | nullDevice => rfl
    · rintro ⟨b, other⟩ hother id names same
      have standsOther := (mem_toList_iff.1 hother).2
      cases Entry.file?_eq_some_iff.1 names
      cases Entry.file?_eq_some_iff.1 same
      exact plain.unshared a b id stands standsOther
  · intro listedPlain
    constructor
    · intro loc target stands
      have noLink := (listedPlain _ (listed stands (by simp))).1
      cases noLink
    · intro a b id ha hb
      exact (listedPlain _ (listed ha (by simp))).2 _ (listed hb (by simp)) id rfl rfl

/-- What holds of the targets of all links can be read off the list of the entries. -/
theorem forall_link_iff {P : Path → Prop} :
    (∀ loc target, fs.entry? loc = some (.link target) → P target) ↔
      ∀ row ∈ fs.toList, ∀ target ∈ row.2.link?, P target := by
  constructor
  · rintro all ⟨loc, found⟩ mem target holds
    cases found with
    | link other =>
      cases holds
      exact all loc target (mem_toList_iff.1 mem).2
    | _ => cases holds
  · intro listed loc target stands
    have below : loc ≠ [] := by
      rintro rfl
      cases stands
    exact listed _ (mem_toList_iff.2 ⟨below, stands⟩) target rfl

instance (fs : FileSystem) : Decidable fs.IsPlain :=
  decidable_of_iff _ isPlain_iff.symm

/-! ## What is seen and what stands -/

@[simp]
theorem sight?_eq_none_iff : fs.sight? loc = none ↔ fs.entry? loc = none :=
  Option.map_eq_none_iff

@[simp]
theorem sight?_eq_directory_iff :
    fs.sight? loc = some .directory ↔ fs.entry? loc = some .directory := by
  rw [sight?, Option.map_eq_some_iff]
  constructor
  · rintro ⟨found, stands, seen⟩
    cases found with
    | directory => exact stands
    | file id => cases seen
    | link target => cases seen
    | nullDevice => cases seen
  · intro stands
    exact ⟨.directory, stands, rfl⟩

@[simp]
theorem sight?_eq_file_iff :
    fs.sight? loc = some (.file file) ↔
      ∃ id, fs.entry? loc = some (.file id) ∧ fs.file id = file := by
  rw [sight?, Option.map_eq_some_iff]
  constructor
  · rintro ⟨found, stands, seen⟩
    cases found with
    | directory => cases seen
    | file id =>
      cases seen
      exact ⟨id, stands, rfl⟩
    | link target => cases seen
    | nullDevice => cases seen
  · rintro ⟨id, stands, rfl⟩
    exact ⟨.file id, stands, rfl⟩

theorem sight?_of_entry (h : fs.entry? loc = some found) :
    fs.sight? loc = some (fs.sight found) := by
  rw [sight?, h, Option.map_some]

/-- What is seen is seen of an entry in the list, unless it is a directory. -/
theorem exists_mem_toList_of_sight? {seen : Sight} (h : fs.sight? loc = some seen)
    (notDir : seen ≠ .directory) : ∃ found, (loc, found) ∈ fs.toList ∧ fs.sight found = seen := by
  obtain ⟨found, stands, same⟩ := Option.map_eq_some_iff.1 h
  refine ⟨found, mem_toList_iff.2 ⟨?_, stands⟩, same⟩
  rintro rfl
  cases stands
  exact notDir same.symm

/-- Where the entries are the same and the files that they name hold the same, the same is seen. -/
theorem sight?_congr {later : FileSystem} (same : later.entry? loc = fs.entry? loc)
    (files : ∀ id, fs.entry? loc = some (.file id) → later.file id = fs.file id) :
    later.sight? loc = fs.sight? loc := by
  rw [sight?, sight?, same]
  cases stands : fs.entry? loc with
  | none => rfl
  | some found =>
    cases found with
    | directory => rfl
    | file id => exact congrArg (fun file => some (Sight.file file)) (files id stands)
    | link target => rfl
    | nullDevice => rfl

/-! ## Changes at one location -/

/-- A plain file system stays plain when one entry changes, unless it becomes a link or names a
file that another entry names. -/
theorem IsPlain.of_change {later : FileSystem} {added : Entry} (plain : fs.IsPlain)
    (change : ∀ other, later.entry? other = if other = loc then some added else fs.entry? other)
    (notLink : ∀ target, added ≠ .link target)
    (fresh : ∀ id, added = .file id → ∀ other, fs.entry? other ≠ some (.file id)) :
    later.IsPlain where
  noLink other target stands := by
    rw [change] at stands
    split_ifs at stands
    · exact notLink target (Option.some.inj stands)
    · exact plain.noLink other target stands
  unshared a b id ha hb := by
    rw [change] at ha hb
    -- Two entries that name a file are both the changed one, or neither is.
    split_ifs at ha hb with hereA hereB hereB
    · rw [hereA, hereB]
    · exact absurd hb (fresh id (Option.some.inj ha) b)
    · exact absurd ha (fresh id (Option.some.inj hb) a)
    · exact plain.unshared a b id ha hb

section NewEntry

variable (place : fs.IsPlace (name :: parent)) (vacant : fs.entry? (name :: parent) = none)

include place vacant

theorem sight?_add_directory (loc : Location) :
    sight? (fs.add parent name .directory) loc =
      if loc = name :: parent then some .directory else fs.sight? loc := by
  have added := entry?_add place vacant .directory (by simp [Entry.file?]) loc
  by_cases here : loc = name :: parent
  · rw [if_pos here] at added ⊢
    exact sight?_of_entry added
  · rw [if_neg here] at added ⊢
    exact sight?_congr added fun id _ => file_add

theorem sight?_addFile (loc : Location) :
    sight? (fs.addFile parent name file) loc =
      if loc = name :: parent then some (.file file) else fs.sight? loc := by
  have added := entry?_addFile place vacant file loc
  by_cases here : loc = name :: parent
  · rw [if_pos here] at added ⊢
    rw [sight?_of_entry added, sight, file_addFile_self]
  · rw [if_neg here] at added ⊢
    exact sight?_congr added fun id stands => file_addFile (lt_size_of_entry stands)

theorem IsPlain.add_directory (plain : fs.IsPlain) : (fs.add parent name .directory).IsPlain :=
  plain.of_change (entry?_add place vacant .directory (by simp [Entry.file?])) (by simp) (by simp)

theorem IsPlain.addFile (plain : fs.IsPlain) : (fs.addFile parent name file).IsPlain := by
  refine plain.of_change (entry?_addFile place vacant file) (by simp) ?_
  -- The number of the new file is one that no entry has named before.
  rintro id ⟨⟩ loc stands
  exact Nat.lt_irrefl _ (lt_size_of_entry stands)

end NewEntry

section Overwrite

variable (plain : fs.IsPlain)

include plain

theorem IsPlain.overwrite : (fs.overwrite source other).1.IsPlain :=
  ⟨plain.noLink, plain.unshared⟩

theorem sight?_overwrite {dest : Location} (stands : fs.entry? dest = some (.file other))
    (apart : source ≠ other) (loc : Location) :
    sight? (fs.overwrite source other).1 loc =
      if loc = dest then some (.file (fs.file source)) else fs.sight? loc := by
  have files := file_overwrite (lt_size_of_entry stands) source
  by_cases here : loc = dest
  · subst here
    have kept : entry? (fs.overwrite source other).1 loc = some (.file other) := stands
    rw [if_pos rfl, sight?_of_entry kept, sight, files, if_pos rfl, overwritingBytes,
      if_neg apart]
  · rw [if_neg here]
    refine sight?_congr rfl fun id names => ?_
    have different : id ≠ other := by
      rintro rfl
      exact here (plain.unshared loc dest id names stands)
    rw [files, if_neg different]

end Overwrite

end FileSystem

end LineShell
