import LineShell.Proofs.FileSystem.Removal

/-!
# What a lookup passes on its way

A lookup that follows all links *passes* the locations where it stands on the way, and the links that
it follows. These are all that it depends on when entries are taken out:

- `isDirectory_iff_of_extends`: a path still leads to a directory in a part of a file system exactly
  if everything that its lookup passed is still there;
- `DeadEnd.not_passes`: a lookup that ends at a directory has passed no link that leads to something
  else, so that no such link is missed.
-/

namespace LineShell.FileSystem

open LineShell.Path (Step)

/-- A walk that follows all links, from a location along steps and with so many links to follow,
passes another location. -/
inductive Passes (fs : FileSystem) : Nat → Location → List Step → Location → Prop
  /-- It stands where it starts. -/
  | start {links : Nat} {loc : Location} {steps : List Step} : Passes fs links loc steps loc
  /-- A step stays where it is. -/
  | stay {links : Nat} {loc met : Location} {step : Step} {rest : List Step}
      (still : step.moves = false) (onward : Passes fs links loc rest met) :
      Passes fs links loc (step :: rest) met
  /-- A step goes up. -/
  | up {links : Nat} {loc met : Location} {rest : List Step}
      (onward : Passes fs links loc.tail rest met) : Passes fs links loc (.up :: rest) met
  /-- A step goes down to a link. -/
  | link {links : Nat} {loc : Location} {name : Name} {rest : List Step} {target : Path}
      (found : fs.entry? (name :: loc) = some (.link target)) :
      Passes fs links loc (.down name :: rest) (name :: loc)
  /-- The link is followed. -/
  | follow {links : Nat} {loc met : Location} {name : Name} {rest : List Step} {target : Path}
      (found : fs.entry? (name :: loc) = some (.link target))
      (onward : Passes fs links (if target.isAbsolute then [] else loc)
        (target.steps ++ rest) met) :
      Passes fs (links + 1) loc (.down name :: rest) met
  /-- A step goes down to an entry that is no link. -/
  | down {links : Nat} {loc met : Location} {name : Name} {rest : List Step} {found : Entry}
      (stands : fs.entry? (name :: loc) = some found) (notLink : ∀ target, found ≠ .link target)
      (onward : Passes fs links (name :: loc) rest met) :
      Passes fs links loc (.down name :: rest) met

/-- The lookup of a path passes a location. -/
def PassesOn (fs : FileSystem) (path : Path) (met : Location) : Prop :=
  fs.Passes maxLinks [] path.steps met

variable {fs later : FileSystem} {links fewer : Nat} {loc dest met mid : Location}
  {front rest steps : List Step} {name : Name} {path : Path} {found : Entry}

theorem Passes.of_still {step : Step} (h : fs.Passes links loc (step :: rest) met)
    (still : step.moves = false) : met = loc ∨ fs.Passes links loc rest met := by
  cases h with
  | start => exact .inl rfl
  | stay _ onward => exact .inr onward
  | _ => cases still

theorem Passes.of_up (h : fs.Passes links loc (.up :: rest) met) :
    met = loc ∨ fs.Passes links loc.tail rest met := by
  cases h with
  | start => exact .inl rfl
  | stay still _ => cases still
  | up onward => exact .inr onward

/-- A step down to a link passes the link, and then what is passed on from its target. -/
theorem Passes.of_down_link {target : Path} (h : fs.Passes (links + 1) loc (.down name :: rest) met)
    (found : fs.entry? (name :: loc) = some (.link target)) :
    met = loc ∨ met = name :: loc ∨
      fs.Passes links (if target.isAbsolute then [] else loc) (target.steps ++ rest) met := by
  cases h with
  | start => exact .inl rfl
  | stay still _ => cases still
  | link _ => exact .inr (.inl rfl)
  | follow again onward =>
    cases found.symm.trans again
    exact .inr (.inr onward)
  | down stands notLink _ => exact absurd (Option.some.inj (stands.symm.trans found)) (notLink _)

theorem Passes.of_down_entry (h : fs.Passes links loc (.down name :: rest) met)
    (stands : fs.entry? (name :: loc) = some found) (notLink : ∀ target, found ≠ .link target) :
    met = loc ∨ fs.Passes links (name :: loc) rest met := by
  cases h with
  | start => exact .inl rfl
  | stay still _ => cases still
  | link link => exact absurd (Option.some.inj (stands.symm.trans link)) (notLink _)
  | follow link _ => exact absurd (Option.some.inj (stands.symm.trans link)) (notLink _)
  | down _ _ onward => exact .inr onward

/-! ## Lookups when entries are gone -/

/-- A walk leads to the same directory where all that it passes is as it was. -/
theorem Leads.congr (h : fs.Leads .follow links loc steps dest)
    (dir : fs.entry? dest = some .directory)
    (same : ∀ met, fs.Passes links loc steps met → later.entry? met = fs.entry? met) :
    later.Leads .follow links loc steps dest := by
  have anywhere : ∀ rest, ¬ IsSlashRefused .follow rest := by simp [IsSlashRefused]
  induction h with
  | done => exact .done
  | stay here still _ ih =>
    have stands := (same _ .start).trans here
    exact .stay stands still (ih dir fun met passed => same met (.stay still passed))
  | up here _ ih =>
    exact .up ((same _ .start).trans here) (ih dir fun met passed => same met (.up passed))
  | vacant _ _ missing => cases missing.symm.trans dir
  | keep _ _ kept => cases kept
  | follow here _ found followed _ ih =>
    refine .follow ((same _ .start).trans here) (anywhere _) ((same _ (.link found)).trans found)
      followed ?_
    exact ih dir fun met passed => same met (.follow found passed)
  | down here _ stands notLink _ ih =>
    have there := (same _ (.down stands notLink .start)).trans stands
    refine .down ((same _ .start).trans here) (anywhere _) there notLink ?_
    exact ih dir fun met passed => same met (.down stands notLink passed)

/-- A walk passes the entry that it leads to. -/
theorem Leads.passes (h : fs.Leads .follow links loc steps dest)
    (stands : fs.entry? dest = some found) : fs.Passes links loc steps dest := by
  induction h with
  | done => exact .start
  | stay _ still _ ih => exact .stay still (ih stands)
  | up _ _ ih => exact .up (ih stands)
  | vacant _ _ missing => cases missing.symm.trans stands
  | keep _ _ kept => cases kept
  | follow _ _ link _ _ ih => exact .follow link (ih stands)
  | down _ _ there notLink _ ih => exact .down there notLink (ih stands)

/-- What a walk passes in the whole of a file system is there if the walk leads to a directory in a
part of it. -/
theorem Leads.entry?_ne_none (h : later.Leads .follow links loc steps dest)
    (dir : later.entry? dest = some .directory) (part : later.Extends fs)
    (passed : fs.Passes links loc steps met) : later.entry? met ≠ none := by
  -- The two walks take the same steps, as what the part has is what the whole has there.
  induction h with
  | done =>
    cases passed
    simp [dir]
  | stay here still _ ih =>
    rcases passed.of_still still with rfl | onward
    · simp [here]
    · exact ih dir onward
  | up here _ ih =>
    rcases passed.of_up with rfl | onward
    · simp [here]
    · exact ih dir onward
  | vacant _ _ missing => cases missing.symm.trans dir
  | keep _ _ kept => cases kept
  | follow here _ link _ _ ih =>
    rcases passed.of_down_link (part.entry link) with rfl | rfl | onward
    · simp [here]
    · simp [link]
    · exact ih dir onward
  | down here _ stands notLink _ ih =>
    rcases passed.of_down_entry (part.entry stands) notLink with rfl | onward
    · simp [here]
    · exact ih dir onward

/-- A path still leads to a directory if its lookup passes none of those that are gone. -/
theorem Sheds.find {removable : Location → Prop} (sheds : fs.Sheds removable later)
    (found : fs.find path .follow = .ok (loc, .directory))
    (clear : ∀ met, removable met → fs.IsEmptyAt met → ¬ fs.PassesOn path met) :
    later.find path .follow = .ok (loc, .directory) := by
  obtain ⟨located, stands⟩ := find_eq_ok_iff.1 found
  obtain ⟨checked, leads⟩ := locate_eq_ok_iff.1 located
  have same : ∀ met, fs.PassesOn path met → later.entry? met = fs.entry? met := by
    intro met passed
    rcases sheds.entry met with same | ⟨inside, dir, holdsNone, -⟩
    · exact same
    · exact absurd passed (clear met inside ⟨dir, holdsNone⟩)
  exact find_eq_ok_iff.2 ⟨locate_eq_ok_iff.2 ⟨checked, leads.congr stands same⟩,
    (same loc (leads.passes stands)).trans stands⟩

theorem isDirectory_eq_true_iff_leads :
    fs.isDirectory path = true ↔ checkPath path = .ok () ∧
      ∃ dest, fs.Leads .follow maxLinks [] path.steps dest ∧
        fs.entry? dest = some .directory := by
  simp only [isDirectory_eq_true_iff, find_eq_ok_iff, locate_eq_ok_iff, and_assoc,
    exists_and_left]

/-- In a part of a file system a path still leads to a directory exactly if all that its lookup
passed is still there. -/
theorem isDirectory_iff_of_extends (part : later.Extends fs) (dir : fs.isDirectory path = true) :
    later.isDirectory path = true ↔ ∀ met, fs.PassesOn path met → later.entry? met ≠ none := by
  rw [isDirectory_eq_true_iff_leads] at dir ⊢
  obtain ⟨checked, dest, leads, there⟩ := dir
  constructor
  · rintro ⟨-, other, still, dir⟩ met passed
    exact still.entry?_ne_none dir part passed
  · intro left
    -- What is there in the part is what was there in the whole.
    have same : ∀ met, fs.PassesOn path met → later.entry? met = fs.entry? met := by
      intro met passed
      obtain ⟨found, stands⟩ := Option.ne_none_iff_exists'.1 (left met passed)
      rw [stands, part.entry stands]
    exact ⟨checked, dest, leads.congr there same,
      (same dest (leads.passes there)).trans there⟩

/-! ## Ways out of an empty directory -/

/-- Only `..` leads out of an empty directory: without it, a walk that passes one ends there. -/
theorem Leads.eq_of_passes_empty (h : fs.Leads .follow links loc steps dest)
    (dir : fs.entry? dest = some .directory) (noUp : .up ∉ steps)
    (noUpInLinks : ∀ other target, fs.entry? other = some (.link target) → .up ∉ target.steps)
    (empty : fs.IsEmptyAt met) (passed : fs.Passes links loc steps met) : met = dest := by
  have holdsNone := names_eq_nil_iff.1 empty.2
  induction h with
  | done =>
    cases passed
    rfl
  | stay _ still _ ih =>
    have onwardNoUp := List.not_mem_of_not_mem_cons noUp
    rcases passed.of_still still with rfl | onward
    · exact ih dir onwardNoUp .start
    · exact ih dir onwardNoUp onward
  | up _ _ _ => exact absurd List.mem_cons_self noUp
  | vacant _ _ missing => cases missing.symm.trans dir
  | keep _ _ kept => cases kept
  | follow _ _ link _ _ ih =>
    rcases passed.of_down_link link with rfl | rfl | onward
    · cases (holdsNone _).symm.trans link
    · cases empty.1.symm.trans link
    · refine ih dir (fun mem => ?_) onward
      rcases List.mem_append.1 mem with mem | mem
      · exact noUpInLinks _ _ link mem
      · exact List.not_mem_of_not_mem_cons noUp mem
  | down _ _ stands notLink _ ih =>
    rcases passed.of_down_entry stands notLink with rfl | onward
    · cases (holdsNone _).symm.trans stands
    · exact ih dir (List.not_mem_of_not_mem_cons noUp) onward

/-! ## Links that lead to something else -/

/-- No walk to a directory passes this location: it is no directory, and if it is a link, its target
is none either. -/
def DeadEnd (fs : FileSystem) (loc : Location) : Prop :=
  fs.entry? loc ≠ some .directory ∧
    ∀ target, fs.entry? loc = some (.link target) → ∃ links dest,
      fs.Leads .follow links (if target.isAbsolute then [] else loc.tail) target.steps dest ∧
        fs.entry? dest ≠ some .directory

/-- A walk whose first steps lead to something other than a directory has no more steps to go. -/
theorem Leads.eq_of_append (h : fs.Leads .follow links loc (front ++ rest) dest)
    (begun : fs.Leads .follow fewer loc front mid) (notDir : fs.entry? mid ≠ some .directory) :
    dest = mid := by
  obtain ⟨left, onward⟩ := h.onward begun (.inl rfl)
  cases rest with
  | nil =>
    cases onward
    rfl
  | cons step rest => exact absurd onward.directory_of_cons notDir

theorem DeadEnd.not_passes (dead : fs.DeadEnd met) (h : fs.Leads .follow links loc steps dest)
    (dir : fs.entry? dest = some .directory) : ¬ fs.Passes links loc steps met := by
  intro passed
  induction h with
  | done =>
    cases passed
    exact dead.1 dir
  | stay here still _ ih =>
    rcases passed.of_still still with rfl | onward
    · exact dead.1 here
    · exact ih dir onward
  | up here _ ih =>
    rcases passed.of_up with rfl | onward
    · exact dead.1 here
    · exact ih dir onward
  | vacant _ _ missing => cases missing.symm.trans dir
  | keep _ _ kept => cases kept
  | follow here _ link _ onward ih =>
    rcases passed.of_down_link link with rfl | rfl | passed
    · exact dead.1 here
    · -- The target of the link is no directory, so it is where the walk ends.
      obtain ⟨fewer, mid, target, notDir⟩ := dead.2 _ link
      rw [onward.eq_of_append target notDir] at dir
      exact notDir dir
    · exact ih dir passed
  | down here _ stands notLink _ ih =>
    rcases passed.of_down_entry stands notLink with rfl | onward
    · exact dead.1 here
    · exact ih dir onward

/-- The target of a link is where a lookup of the same path ends that does not keep the link. -/
private theorem Leads.exists_of_link {target : Path} {id : FileId}
    (kept : fs.Leads .keep links loc steps met) (led : fs.Leads .follow links loc steps dest)
    (link : fs.entry? met = some (.link target)) (file : fs.entry? dest = some (.file id)) :
    ∃ fewer, fs.Leads .follow fewer (if target.isAbsolute then [] else met.tail) target.steps
      dest := by
  induction kept with
  | done =>
    cases led
    cases link.symm.trans file
  | stay _ still _ ih => exact ih (led.of_still still) link
  | up _ _ ih => exact ih led.of_up link
  | vacant _ _ missing => cases missing.symm.trans link
  | keep _ found _ =>
    cases link.symm.trans found
    obtain ⟨fewer, -, onward⟩ := led.of_down_link found (by simp)
    rw [List.append_nil] at onward
    exact ⟨fewer, onward⟩
  | follow _ _ found _ _ ih =>
    obtain ⟨_, same, onward⟩ := led.of_down_link found (by simp)
    cases same
    exact ih onward link
  | down _ _ stands notLink _ ih => exact ih (led.of_down_entry stands notLink) link

/-- The entry of a file, or of a link to one, is a dead end. -/
theorem deadEnd_of_find {id : FileId} (kept : fs.find path .keep = .ok (loc, found))
    (notDir : found ≠ .directory) (led : fs.find path .follow = .ok (dest, .file id)) :
    fs.DeadEnd loc := by
  obtain ⟨keptAt, stands⟩ := find_eq_ok_iff.1 kept
  obtain ⟨ledTo, file⟩ := find_eq_ok_iff.1 led
  refine ⟨by simpa [stands] using notDir, fun target link => ?_⟩
  obtain ⟨fewer, onward⟩ :=
    (locate_eq_ok_iff.1 keptAt).2.exists_of_link (locate_eq_ok_iff.1 ledTo).2 link file
  exact ⟨fewer, dest, onward, by simp [file]⟩

/-- Without a dead end every path leads to the directory that it has led to. -/
theorem DeadEnd.isDirectory_erase (dead : fs.DeadEnd loc) (stands : fs.entry? loc = some found)
    (dir : fs.isDirectory path = true) : isDirectory (fs.erase loc) path = true := by
  have notDir : found ≠ .directory := by
    rintro rfl
    exact dead.1 stands
  have notRoot := ne_nil_of_entry stands notDir
  have holdsNone := names_eq_nil_of_entry stands notDir
  obtain ⟨-, dest, leads, there⟩ := isDirectory_eq_true_iff_leads.1 dir
  refine (isDirectory_iff_of_extends (extends_erase holdsNone notRoot) dir).2 fun met passed => ?_
  have other : met ≠ loc := by
    rintro rfl
    exact dead.not_passes leads there passed
  rw [entry?_erase holdsNone notRoot, if_neg other]
  exact leads.entry?_ne_none there (.refl fs) passed

end LineShell.FileSystem
