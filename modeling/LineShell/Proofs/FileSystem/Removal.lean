import LineShell.Proofs.FileSystem.Preorder
import LineShell.Proofs.FileSystem.Walk

/-!
# What removals leave as it was

A removal takes out one entry that holds no others (`entry?_erase`). Which one that is follows from
the success of the operation: `exists_of_removeFile` and `exists_of_removeDirectory`.

Several directories may be removed in a row. `Sheds` describes what is left by what is gone: some
directories at removable locations that were empty at the start, and nothing else. Removals can be
put together as long as no removable location holds another (`Sheds.trans`). What is left is part of
what was there (`extends_erase`, `Sheds.extends`), so whatever is found afterwards was there before.
-/

namespace LineShell.FileSystem

variable {fs mid later : FileSystem} {loc : Location} {path : Path} {found : Entry}
  {removable : Location → Prop}

/-! ## One entry less -/

theorem names_eq_nil_iff : fs.names loc = [] ↔ ∀ name, fs.entry? (name :: loc) = none := by
  rw [List.eq_nil_iff_forall_not_mem]
  simp only [mem_names_iff, ne_eq, not_not]

/-- Only directories hold entries. -/
theorem names_eq_nil_of_entry (stands : fs.entry? loc = some found) (notDir : found ≠ .directory) :
    fs.names loc = [] := by
  rw [names_eq_nil_iff]
  intro name
  by_contra held
  obtain ⟨other, inside⟩ := Option.ne_none_iff_exists'.1 held
  rw [entry?_parent inside] at stands
  exact notDir (Option.some.inj stands).symm

/-- The root is a directory. -/
theorem ne_nil_of_entry (stands : fs.entry? loc = some found) (notDir : found ≠ .directory) :
    loc ≠ [] := by
  rintro rfl
  exact notDir (Option.some.inj stands).symm

@[simp]
theorem files_erase : (fs.erase loc).files = fs.files := by
  unfold erase
  split <;> rfl

/-- An entry that holds no others is gone when it is removed, and all others are as they were. -/
theorem entry?_erase (holdsNone : fs.names loc = []) (below : loc ≠ []) (other : Location) :
    entry? (fs.erase loc) other = if other = loc then none else fs.entry? other := by
  rw [erase, dif_pos holdsNone]
  split_ifs with here
  · subst here
    cases other with
    | nil => exact absurd rfl below
    | cons name parent => simp [FileSystem.entry?, Entries.entry?]
  · exact Entries.entry?_erase here

/-- What is left is part of what was there. -/
theorem extends_erase (holdsNone : fs.names loc = []) (below : loc ≠ []) :
    Extends (fs.erase loc) fs where
  entry {other found} stands := by
    rw [entry?_erase holdsNone below] at stands
    split_ifs at stands
    exact stands
  size_le := Nat.le_of_eq (congrArg Array.size files_erase)

/-- The entry that is removed as a file is none of a directory. -/
theorem exists_of_removeFile (h : fs.removeFile path = .ok later) :
    ∃ loc found, fs.find path .keep = .ok (loc, found) ∧ found ≠ .directory ∧
      later = fs.erase loc := by
  rw [removeFile] at h
  obtain ⟨⟨loc, found⟩, led, removed⟩ := bind_eq_ok_iff.1 h
  split at removed
  · cases removed
  · rename_i notDir same
    cases same
    refine ⟨loc, found, led, ?_, (Except.ok.inj removed).symm⟩
    rintro rfl
    exact notDir rfl

/-- A directory that is removed is empty, and not the root. -/
theorem exists_of_removeDirectory (h : fs.removeDirectory path = .ok later) :
    ∃ loc, fs.find path .keep = .ok (loc, .directory) ∧ loc ≠ [] ∧ fs.names loc = [] ∧
      later = fs.erase loc := by
  rw [removeDirectory] at h
  obtain ⟨⟨loc, found⟩, led, removed⟩ := bind_eq_ok_iff.1 h
  split at removed
  · cases removed
  · rename_i notRoot same
    cases same
    split at removed
    · rename_i holdsNone
      exact ⟨loc, led, notRoot, holdsNone, (Except.ok.inj removed).symm⟩
    · cases removed
  · cases removed

/-! ## Several directories less -/

/-- The later file system lacks some directories at removable locations that were empty, and is
otherwise the same. -/
structure Sheds (removable : Location → Prop) (fs later : FileSystem) : Prop where
  /-- The files are the same. -/
  files_eq : later.files = fs.files
  /-- An entry stays, or it is that of an empty directory. -/
  entry : ∀ loc, later.entry? loc = fs.entry? loc ∨
    (removable loc ∧ fs.entry? loc = some .directory ∧ fs.names loc = [] ∧
      later.entry? loc = none)

theorem Sheds.refl (removable : Location → Prop) (fs : FileSystem) : fs.Sheds removable fs :=
  ⟨rfl, fun _ => .inl rfl⟩

theorem Sheds.mono {more : Location → Prop} (h : fs.Sheds removable later)
    (weaken : ∀ loc, removable loc → more loc) : fs.Sheds more later where
  files_eq := h.files_eq
  entry loc := (h.entry loc).imp_right fun ⟨here, gone⟩ => ⟨weaken loc here, gone⟩

theorem sheds_erase (here : removable loc) (stands : fs.entry? loc = some .directory)
    (holdsNone : fs.names loc = []) (below : loc ≠ []) : fs.Sheds removable (fs.erase loc) where
  files_eq := files_erase
  entry other := by
    have left := entry?_erase holdsNone below other
    split_ifs at left with same
    · subst same
      exact .inr ⟨here, stands, holdsNone, left⟩
    · exact .inl left

/-- What has been removed first was not inside of what is removed next, so that this was empty from
the start. -/
theorem Sheds.trans (apart : ∀ name loc, removable loc → ¬ removable (name :: loc))
    (first : fs.Sheds removable mid) (second : mid.Sheds removable later) :
    fs.Sheds removable later where
  files_eq := second.files_eq.trans first.files_eq
  entry loc := by
    rcases second.entry loc with kept | ⟨here, stands, holdsNone, gone⟩
    · rw [kept]
      exact first.entry loc
    · rcases first.entry loc with same | ⟨-, -, -, missing⟩
      · refine .inr ⟨here, same ▸ stands, names_eq_nil_iff.2 fun name => ?_, gone⟩
        have noneLeft : mid.entry? (name :: loc) = none := names_eq_nil_iff.1 holdsNone name
        rcases first.entry (name :: loc) with same | ⟨inside, -⟩
        · rw [← same, noneLeft]
        · exact absurd inside (apart name loc here)
      · rw [missing] at stands
        cases stands

theorem Sheds.extends (h : fs.Sheds removable later) : later.Extends fs where
  entry {loc found} stands := by
    rcases h.entry loc with same | ⟨-, -, -, gone⟩
    · rwa [← same]
    · rw [gone] at stands
      cases stands
  size_le := Nat.le_of_eq (congrArg Array.size h.files_eq)

/-- An empty directory stands at a location. -/
def IsEmptyAt (fs : FileSystem) (loc : Location) : Prop :=
  fs.entry? loc = some .directory ∧ fs.names loc = []

/-- The later file system lacks every directory at a removable location that was empty, and nothing
else. -/
structure ShedsEvery (removable : Location → Prop) (fs later : FileSystem) : Prop
    extends Sheds removable fs later where
  /-- The empty directories are gone. -/
  gone : ∀ loc, removable loc → fs.IsEmptyAt loc → later.entry? loc = none

/-- No entry of a directory is inside of another one. -/
theorem entries_apart (loc : Location) (name : Name) (other : Location)
    (isEntry : ∃ first, other = first :: loc) : ¬ ∃ first, name :: other = first :: loc := by
  rintro ⟨second, same⟩
  obtain ⟨first, rfl⟩ := isEntry
  exact List.cons_ne_self _ _ (List.cons.inj same).2

/-- Where nothing that a location holds is removable, it holds what it held. -/
theorem Sheds.names_eq (h : fs.Sheds removable later) (apart : ∀ name, ¬ removable (name :: loc)) :
    later.names loc = fs.names loc := by
  refine names_congr fun name => ?_
  rcases h.entry (name :: loc) with same | ⟨inside, -⟩
  · rw [same]
  · exact absurd inside (apart name)

theorem shedsEvery_of_none (none : ∀ loc, ¬ removable loc) (fs : FileSystem) :
    fs.ShedsEvery removable fs where
  files_eq := rfl
  entry _ := .inl rfl
  gone loc here := absurd here (none loc)

/-- What is still there after the empty directories have been removed was not empty. -/
theorem ShedsEvery.not_isEmptyAt (h : fs.ShedsEvery removable later) (here : removable loc)
    (apart : ∀ name, ¬ removable (name :: loc)) : ¬ later.IsEmptyAt loc := by
  rintro ⟨stands, holdsNone⟩
  rw [h.names_eq apart] at holdsNone
  have gone := h.gone loc here ⟨h.extends.entry stands, holdsNone⟩
  cases gone.symm.trans stands

/-- One more location is removable, and an empty directory that stood there is removed. -/
theorem ShedsEvery.erase (h : fs.ShedsEvery removable later)
    (apart : ∀ name other, removable other ∨ other = loc →
      ¬ (removable (name :: other) ∨ name :: other = loc))
    (empty : later.IsEmptyAt loc) (below : loc ≠ []) :
    fs.ShedsEvery (fun other => removable other ∨ other = loc) (later.erase loc) where
  toSheds := (h.toSheds.mono fun _ => .inl).trans apart
    (sheds_erase (.inr rfl) empty.1 empty.2 below)
  gone other here emptied := by
    rw [entry?_erase empty.2 below]
    split_ifs with same
    · rfl
    · exact h.gone other (here.resolve_right same) emptied

/-- One more location is removable, but no empty directory stood there. -/
theorem ShedsEvery.skip (h : fs.ShedsEvery removable later) (held : ¬ fs.IsEmptyAt loc) :
    fs.ShedsEvery (fun other => removable other ∨ other = loc) later where
  toSheds := h.toSheds.mono fun _ => .inl
  gone other here emptied := by
    rcases here with here | rfl
    · exact h.gone other here emptied
    · exact absurd emptied held

end LineShell.FileSystem
