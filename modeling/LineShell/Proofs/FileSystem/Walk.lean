import LineShell.Proofs.FileSystem.Update

/-!
# Where a lookup leads

The walk of a lookup as a relation: `Leads` has one rule for each thing that a walk can do at a
step, and `walkLinks_eq_ok_iff` says that the walk succeeds exactly where the rules lead. What a
successful lookup is good for is then shown by induction on the rules:

- it ends at a place (`Leads.isPlace`);
- it ends there too in every file system that extends the first one (`Leads.extend`);
- a lookup that may write ends where one that only reads does (`Leads.follow_of_write`);
- a lookup of a directory depends on the steps that move alone (`Leads.of_moves_eq`).

Walks are cut and joined where they come to a directory (`Leads.split`, `Leads.append`); the two parts
share the links that the whole may follow.
-/

namespace LineShell.FileSystem

open LineShell.Path (Step)

/-- A lookup for writing is at a step down with nothing but a trailing slash left to go. -/
def IsSlashRefused (last : LastStep) (rest : List Step) : Prop :=
  last = .write ∧ rest ≠ [] ∧ ∀ other ∈ rest, other = .empty

/-- A walk that starts at a location leads along steps to another one and follows at most the
given number of links. -/
inductive Leads (fs : FileSystem) (last : LastStep) :
    Nat → Location → List Step → Location → Prop
  /-- There are no steps left. -/
  | done {links : Nat} {loc : Location} : Leads fs last links loc [] loc
  /-- A step stays where it is. -/
  | stay {links : Nat} {loc dest : Location} {step : Step} {rest : List Step}
      (dir : fs.entry? loc = some .directory) (still : step.moves = false)
      (onward : Leads fs last links loc rest dest) : Leads fs last links loc (step :: rest) dest
  /-- A step goes up, or stays at the root. -/
  | up {links : Nat} {loc dest : Location} {rest : List Step}
      (dir : fs.entry? loc = some .directory) (onward : Leads fs last links loc.tail rest dest) :
      Leads fs last links loc (.up :: rest) dest
  /-- The last step goes down to where no entry stands. -/
  | vacant {links : Nat} {loc : Location} {name : Name} (dir : fs.entry? loc = some .directory)
      (valid : name.isValid = true) (missing : fs.entry? (name :: loc) = none) :
      Leads fs last links loc [.down name] (name :: loc)
  /-- The last step goes down to a link, which is kept. -/
  | keep {links : Nat} {loc : Location} {name : Name} {target : Path}
      (dir : fs.entry? loc = some .directory)
      (found : fs.entry? (name :: loc) = some (.link target)) (kept : last = .keep) :
      Leads fs last links loc [.down name] (name :: loc)
  /-- A step goes down to a link, which is followed. -/
  | follow {links : Nat} {loc dest : Location} {name : Name} {rest : List Step} {target : Path}
      (dir : fs.entry? loc = some .directory) (allowed : ¬ IsSlashRefused last rest)
      (found : fs.entry? (name :: loc) = some (.link target))
      (followed : ¬ (rest = [] ∧ last = .keep))
      (onward : Leads fs last links (if target.isAbsolute then [] else loc)
        (target.steps ++ rest) dest) :
      Leads fs last (links + 1) loc (.down name :: rest) dest
  /-- A step goes down to an entry that is no link. -/
  | down {links : Nat} {loc dest : Location} {name : Name} {rest : List Step} {found : Entry}
      (dir : fs.entry? loc = some .directory) (allowed : ¬ IsSlashRefused last rest)
      (stands : fs.entry? (name :: loc) = some found) (notLink : ∀ target, found ≠ .link target)
      (onward : Leads fs last links (name :: loc) rest dest) :
      Leads fs last links loc (.down name :: rest) dest

variable {fs later : FileSystem} {last : LastStep} {links : Nat} {loc dest : Location}
  {steps rest : List Step} {name : Name}

/-! ## The walk follows the rules -/

/-- What the walk does at a link that it meets with so many links still to follow. -/
private def jump (fs : FileSystem) (last : LastStep) :
    Nat → Location → List Step → Except Fault Location
  | 0 => fun _ _ => .error (.refused .tooManyLinks)
  | links + 1 => fs.walkLinks last links

private theorem walkLinks_eq_walk :
    fs.walkLinks last links = fs.walk last (fs.jump last links) := by
  cases links <;> rfl

/-- The steps of one walk follow the rules if the walks from the links that it meets do. -/
private theorem leads_of_walk
    (hjump : ∀ start steps dest, fs.jump last links start steps = .ok dest →
      ∃ fewer, links = fewer + 1 ∧ fs.Leads last fewer start steps dest)
    (h : fs.walk last (fs.jump last links) loc steps = .ok dest) :
    fs.Leads last links loc steps dest := by
  -- The walk recurses on the steps, and each of its branches is one rule.
  induction steps generalizing loc with
  | nil =>
    cases h
    exact .done
  | cons step rest ih =>
    rw [walk.eq_def] at h
    simp only at h
    split at h
    · cases h
    · rename_i dir
      cases step with
      | empty => exact .stay dir rfl (ih h)
      | here => exact .stay dir rfl (ih h)
      | up => exact .up dir (ih h)
      | down name =>
        simp only at h
        split at h
        · cases h
        rename_i allowed
        split at h
        · cases h
        rename_i valid
        simp only [Bool.not_eq_true', Bool.not_eq_false] at valid
        split at h
        · rename_i missing
          split at h
          · rename_i atEnd
            subst atEnd
            cases h
            exact .vacant dir valid missing
          · cases h
        · rename_i target found
          split at h
          · rename_i kept
            obtain ⟨rfl, kept⟩ := kept
            cases h
            exact .keep dir found kept
          · rename_i followed
            obtain ⟨fewer, rfl, onward⟩ := hjump _ _ _ h
            exact .follow dir allowed found followed onward
        · rename_i other notLink stands
          exact .down dir allowed stands notLink (ih h)
    · cases h

private theorem leads_of_walkLinks (h : fs.walkLinks last links loc steps = .ok dest) :
    fs.Leads last links loc steps dest := by
  -- A walk that goes on from a link has one link less to follow.
  induction links generalizing loc steps dest with
  | zero =>
    rw [walkLinks_eq_walk] at h
    exact leads_of_walk (fun _ _ _ none => by cases none) h
  | succ links ih =>
    rw [walkLinks_eq_walk] at h
    exact leads_of_walk (fun _ _ _ onward => ⟨links, rfl, ih onward⟩) h

private theorem walkLinks_of_leads (h : fs.Leads last links loc steps dest) :
    fs.walkLinks last links loc steps = .ok dest := by
  induction h with
  | done => rw [walkLinks_eq_walk, walk]
  | @stay links loc dest step rest dir still onward ih =>
    rw [walkLinks_eq_walk] at ih ⊢
    cases step with
    | empty => rwa [walk, dir]
    | here => rwa [walk, dir]
    | up => simp [Step.moves] at still
    | down name => simp [Step.moves] at still
  | up dir onward ih =>
    rw [walkLinks_eq_walk] at ih ⊢
    rwa [walk, dir]
  | vacant dir valid missing =>
    rw [walkLinks_eq_walk, walk, dir]
    simp [valid, missing]
  | keep dir found kept =>
    rw [walkLinks_eq_walk, walk, dir]
    simp [(isPlace_of_entry found).1, found, kept]
  | follow dir allowed found followed onward ih =>
    rw [walkLinks_eq_walk, walk, dir]
    unfold IsSlashRefused at allowed
    simp only [if_neg allowed, (isPlace_of_entry found).1, found, if_neg followed]
    exact ih
  | @down links loc dest name rest found dir allowed stands notLink onward ih =>
    rw [walkLinks_eq_walk] at ih ⊢
    rw [walk, dir]
    unfold IsSlashRefused at allowed
    simp only [if_neg allowed, (isPlace_of_entry stands).1, stands]
    cases found with
    | link target => exact absurd rfl (notLink target)
    | directory => exact ih
    | file id => exact ih
    | nullDevice => exact ih

/-- A walk succeeds exactly where the rules lead. -/
theorem walkLinks_eq_ok_iff :
    fs.walkLinks last links loc steps = .ok dest ↔ fs.Leads last links loc steps dest :=
  ⟨leads_of_walkLinks, walkLinks_of_leads⟩

/-! ## What a successful lookup is good for -/

/-- The location above a directory is a place. -/
private theorem isPlace_tail (dir : fs.entry? loc = some .directory) : fs.IsPlace loc.tail := by
  cases loc with
  | nil => trivial
  | cons name parent => exact isPlace_of_entry (entry?_parent dir)

/-- A walk from a place ends at a place. -/
theorem Leads.isPlace (h : fs.Leads last links loc steps dest) (start : fs.IsPlace loc) :
    fs.IsPlace dest := by
  induction h with
  | done => exact start
  | stay _ _ _ ih => exact ih start
  | up dir _ ih => exact ih (isPlace_tail dir)
  | vacant dir valid _ => exact ⟨valid, dir⟩
  | keep _ found _ => exact isPlace_of_entry found
  | @follow _ _ _ _ _ target _ _ _ _ _ ih =>
    apply ih
    split
    · trivial
    · exact start
  | down _ _ stands _ _ ih => exact ih (isPlace_of_entry stands)

/-- A walk leads to the same location in an extended file system, unless it found no entry there
and a link has been put there since. -/
theorem Leads.extend (ext : fs.Extends later) (h : fs.Leads last links loc steps dest)
    (noLink : fs.entry? dest = none → ∀ target, later.entry? dest ≠ some (.link target)) :
    later.Leads last links loc steps dest := by
  induction h with
  | done => exact .done
  | stay dir still _ ih => exact .stay (ext.entry dir) still (ih noLink)
  | up dir _ ih => exact .up (ext.entry dir) (ih noLink)
  | @vacant links loc name dir valid missing =>
    -- Something may stand at the end by now; all that was met before is still there.
    cases stands : later.entry? (name :: loc) with
    | none => exact .vacant (ext.entry dir) valid stands
    | some found =>
      refine .down (ext.entry dir) (fun refused => refused.2.1 rfl) stands ?_ .done
      rintro target rfl
      exact noLink missing target stands
  | keep dir found kept => exact .keep (ext.entry dir) (ext.entry found) kept
  | follow dir allowed found followed _ ih =>
    exact .follow (ext.entry dir) allowed (ext.entry found) followed (ih noLink)
  | down dir allowed stands notLink _ ih =>
    exact .down (ext.entry dir) allowed (ext.entry stands) notLink (ih noLink)

/-- A lookup for writing ends where one that follows all links does. -/
theorem Leads.follow_of_write (h : fs.Leads .write links loc steps dest) :
    fs.Leads .follow links loc steps dest := by
  have allowed : ∀ rest, ¬ IsSlashRefused .follow rest := by simp [IsSlashRefused]
  induction h with
  | done => exact .done
  | stay dir still _ ih => exact .stay dir still ih
  | up dir _ ih => exact .up dir ih
  | vacant dir valid missing => exact .vacant dir valid missing
  | keep _ _ kept => cases kept
  | follow dir _ found _ _ ih => exact .follow dir (allowed _) found (by simp) ih
  | down dir _ stands notLink _ ih => exact .down dir (allowed _) stands notLink ih

/-- A walk whose last step is empty, as of a path that ends in a slash, ends at a directory. -/
theorem Leads.directory_of_getLast (h : fs.Leads last links loc steps dest)
    (slash : steps.getLast? = some .empty) : fs.entry? dest = some .directory := by
  -- The last of some steps is also the last of those after the first one, if there are any.
  have onward : ∀ {step : Step} {rest : List Step}, rest ≠ [] →
      (step :: rest).getLast? = some .empty → rest.getLast? = some .empty := by
    intro step rest notNil atEnd
    rwa [List.getLast?_cons_of_ne_nil notNil] at atEnd
  induction h with
  | done => cases slash
  | @stay links loc dest step rest dir still onwards ih =>
    by_cases atEnd : rest = []
    · subst atEnd
      cases onwards
      exact dir
    · exact ih (onward atEnd slash)
  | @up links loc dest rest dir onwards ih =>
    by_cases atEnd : rest = []
    · subst atEnd
      cases slash
    · exact ih (onward atEnd slash)
  | vacant _ _ _ => cases slash
  | keep _ _ _ => cases slash
  | @follow links loc dest name rest target _ _ _ _ _ ih =>
    by_cases atEnd : rest = []
    · subst atEnd
      cases slash
    · apply ih
      rw [List.getLast?_append_of_ne_nil _ atEnd]
      exact onward atEnd slash
  | @down links loc dest name rest found _ _ _ _ _ ih =>
    by_cases atEnd : rest = []
    · subst atEnd
      cases slash
    · exact ih (onward atEnd slash)

/-- A lookup that ends at something other than a directory ends there too if it may write. -/
theorem Leads.write_of_follow (h : fs.Leads .follow links loc steps dest)
    (notDir : fs.entry? dest ≠ some .directory) : fs.Leads .write links loc steps dest := by
  -- Only a path with a trailing slash is refused for writing, and that leads to a directory.
  have allowed : ∀ {links : Nat} {loc : Location} (front : List Step) {rest : List Step},
      fs.Leads .follow links loc (front ++ rest) dest → ¬ IsSlashRefused .write rest := by
    rintro links loc front rest leads ⟨-, notNil, empty⟩
    refine notDir (leads.directory_of_getLast ?_)
    rw [List.getLast?_append_of_ne_nil _ notNil, List.getLast?_eq_some_getLast notNil]
    exact congrArg some (empty _ (List.getLast_mem notNil))
  induction h with
  | done => exact .done
  | stay dir still _ ih => exact .stay dir still (ih notDir allowed)
  | up dir _ ih => exact .up dir (ih notDir allowed)
  | vacant dir valid missing => exact .vacant dir valid missing
  | keep _ _ kept => cases kept
  | follow dir _ found _ onward ih =>
    exact .follow dir (allowed _ onward) found (by simp) (ih notDir allowed)
  | down dir _ stands notLink onward ih =>
    exact .down dir (allowed [] onward) stands notLink (ih notDir allowed)

/-! ## What is left of a walk after its first steps -/

/-- Whatever the next step is, it is taken from a directory. -/
theorem Leads.directory_of_cons {step : Step} (h : fs.Leads last links loc (step :: rest) dest) :
    fs.entry? loc = some .directory := by
  cases h <;> assumption

theorem Leads.of_still {step : Step} (h : fs.Leads last links loc (step :: rest) dest)
    (still : step.moves = false) : fs.Leads last links loc rest dest := by
  cases h with
  | stay _ _ onward => exact onward
  | _ => cases still

theorem Leads.of_up (h : fs.Leads last links loc (.up :: rest) dest) :
    fs.Leads last links loc.tail rest dest := by
  cases h with
  | stay _ still _ => cases still
  | up _ onward => exact onward

/-- A step down to where no entry stands is the last one. -/
theorem Leads.of_down_vacant (h : fs.Leads last links loc (.down name :: rest) dest)
    (missing : fs.entry? (name :: loc) = none) : rest = [] ∧ dest = name :: loc := by
  cases h with
  | stay _ still _ => cases still
  | vacant _ _ _ => exact ⟨rfl, rfl⟩
  | keep _ found _ => cases missing.symm.trans found
  | follow _ _ found _ _ => cases missing.symm.trans found
  | down _ _ stands _ _ => cases missing.symm.trans stands

theorem Leads.of_down_link {target : Path} (h : fs.Leads last links loc (.down name :: rest) dest)
    (found : fs.entry? (name :: loc) = some (.link target)) (followed : ¬ (rest = [] ∧ last = .keep)) :
    ∃ fewer, links = fewer + 1 ∧
      fs.Leads last fewer (if target.isAbsolute then [] else loc) (target.steps ++ rest) dest := by
  cases h with
  | stay _ still _ => cases still
  | vacant _ _ missing => cases missing.symm.trans found
  | keep _ _ kept => exact absurd ⟨rfl, kept⟩ followed
  | follow _ _ again _ onward =>
    cases found.symm.trans again
    exact ⟨_, rfl, onward⟩
  | down _ _ stands notLink _ =>
    exact absurd (Option.some.inj (stands.symm.trans found)) (notLink target)

theorem Leads.of_down_entry {found : Entry}
    (h : fs.Leads last links loc (.down name :: rest) dest)
    (stands : fs.entry? (name :: loc) = some found) (notLink : ∀ target, found ≠ .link target) :
    fs.Leads last links (name :: loc) rest dest := by
  have differs : ∀ target, fs.entry? (name :: loc) ≠ some (.link target) := by
    intro target link
    exact notLink target (Option.some.inj (stands.symm.trans link))
  cases h with
  | stay _ still _ => cases still
  | vacant _ _ missing => cases missing.symm.trans stands
  | keep _ link _ => exact absurd link (differs _)
  | follow _ _ link _ _ => exact absurd link (differs _)
  | down _ _ _ _ onward => exact onward

/-- A walk goes on from where its first steps lead, if it does not keep a link there. -/
theorem Leads.onward {front : List Step} {mid : Location} {fewer : Nat}
    (h : fs.Leads last links loc (front ++ rest) dest)
    (begun : fs.Leads .follow fewer loc front mid) (goesOn : last = .follow ∨ rest ≠ []) :
    ∃ left, fs.Leads last left mid rest dest := by
  have followed : ∀ front : List Step, ¬ (front ++ rest = [] ∧ last = .keep) := by
    rintro front ⟨atEnd, rfl⟩
    exact goesOn.elim nofun fun more => more (List.append_eq_nil_iff.1 atEnd).2
  -- Both walks take the steps of `front` together; only the links that they may follow differ.
  induction begun generalizing links with
  | done => exact ⟨links, h⟩
  | stay _ still _ ih => exact ih (h.of_still still)
  | up _ _ ih => exact ih h.of_up
  | vacant _ _ missing =>
    obtain ⟨rfl, rfl⟩ := h.of_down_vacant missing
    exact ⟨links, .done⟩
  | keep _ _ kept => cases kept
  | follow _ _ found _ _ ih =>
    obtain ⟨_, -, onward⟩ := h.of_down_link found (followed _)
    rw [List.append_eq, ← List.append_assoc] at onward
    exact ih onward
  | down _ _ stands notLink _ ih => exact ih (h.of_down_entry stands notLink)

/-- A walk may follow more links than it needs to. -/
theorem Leads.mono {fewer : Nat} (h : fs.Leads last fewer loc steps dest) (le : fewer ≤ links) :
    fs.Leads last links loc steps dest := by
  induction h generalizing links with
  | done => exact .done
  | stay dir still _ ih => exact .stay dir still (ih le)
  | up dir _ ih => exact .up dir (ih le)
  | vacant dir valid missing => exact .vacant dir valid missing
  | keep dir found kept => exact .keep dir found kept
  | follow dir allowed found followed _ ih =>
    obtain ⟨others, rfl⟩ := Nat.exists_eq_add_of_lt (Nat.lt_of_succ_le le)
    exact .follow dir allowed found followed (ih (Nat.le_add_right _ _))
  | down dir allowed stands notLink _ ih => exact .down dir allowed stands notLink (ih le)

/-- A walk is one along its first steps, and one along the others from there on; the two share the
links that it may follow. -/
theorem Leads.split {front : List Step} (h : fs.Leads .follow links loc (front ++ rest) dest) :
    ∃ mid used left, used + left = links ∧ fs.Leads .follow used loc front mid ∧
      fs.Leads .follow left mid rest dest := by
  have anywhere : ∀ rest, ¬ IsSlashRefused .follow rest := by simp [IsSlashRefused]
  -- If there are no first steps, there is nothing to do; otherwise the first rule is that of `h`.
  generalize all : front ++ rest = steps at h
  induction h generalizing front with
  | done =>
    obtain ⟨rfl, rfl⟩ := List.append_eq_nil_iff.1 all
    exact ⟨_, 0, _, Nat.zero_add _, .done, .done⟩
  | stay dir still onward ih =>
    cases front with
    | nil =>
      cases all
      exact ⟨_, 0, _, Nat.zero_add _, .done, .stay dir still onward⟩
    | cons step front =>
      cases all
      obtain ⟨mid, used, left, shared, begun, later⟩ := ih rfl
      exact ⟨mid, used, left, shared, .stay dir still begun, later⟩
  | up dir onward ih =>
    cases front with
    | nil =>
      cases all
      exact ⟨_, 0, _, Nat.zero_add _, .done, .up dir onward⟩
    | cons step front =>
      cases all
      obtain ⟨mid, used, left, shared, begun, later⟩ := ih rfl
      exact ⟨mid, used, left, shared, .up dir begun, later⟩
  | vacant dir valid missing =>
    cases front with
    | nil =>
      cases all
      exact ⟨_, 0, _, Nat.zero_add _, .done, .vacant dir valid missing⟩
    | cons step front =>
      rw [List.cons_append, List.cons.injEq, List.append_eq_nil_iff] at all
      obtain ⟨rfl, rfl, rfl⟩ := all
      exact ⟨_, 0, _, Nat.zero_add _, .vacant dir valid missing, .done⟩
  | keep _ _ kept => cases kept
  | follow dir _ found followed onward ih =>
    cases front with
    | nil =>
      cases all
      exact ⟨_, 0, _, Nat.zero_add _, .done, .follow dir (anywhere _) found followed onward⟩
    | cons step front =>
      cases all
      obtain ⟨mid, used, left, shared, begun, later⟩ := ih (List.append_assoc _ _ _)
      refine ⟨mid, used + 1, left, by rw [← shared]; omega, ?_, later⟩
      exact .follow dir (anywhere _) found (by simp) begun
  | down dir _ stands notLink onward ih =>
    cases front with
    | nil =>
      cases all
      exact ⟨_, 0, _, Nat.zero_add _, .done, .down dir (anywhere _) stands notLink onward⟩
    | cons step front =>
      cases all
      obtain ⟨mid, used, left, shared, begun, later⟩ := ih rfl
      exact ⟨mid, used, left, shared, .down dir (anywhere _) stands notLink begun, later⟩

/-- A walk to a directory goes on from there. -/
theorem Leads.append {front : List Step} {mid : Location} {used left : Nat}
    (h : fs.Leads .follow used loc front mid) (dir : fs.entry? mid = some .directory)
    (onward : fs.Leads last left mid rest dest) (goesOn : last = .follow ∨ rest ≠ [])
    (allowed : ∀ front : List Step, ¬ IsSlashRefused last (front ++ rest)) :
    fs.Leads last (used + left) loc (front ++ rest) dest := by
  have followed : ∀ front : List Step, ¬ (front ++ rest = [] ∧ last = .keep) := by
    rintro front ⟨atEnd, rfl⟩
    exact goesOn.elim nofun fun more => more (List.append_eq_nil_iff.1 atEnd).2
  induction h with
  | done => exact onward.mono (Nat.le_add_left _ _)
  | stay here still _ ih => exact .stay here still (ih dir onward)
  | up here _ ih => exact .up here (ih dir onward)
  | vacant _ _ missing => cases missing.symm.trans dir
  | keep _ _ kept => cases kept
  | follow here _ found _ _ ih =>
    have later := ih dir onward
    rw [List.append_assoc] at later
    rw [Nat.add_right_comm]
    exact .follow here (allowed _) found (followed _) later
  | down here _ stands notLink _ ih =>
    exact .down here (allowed _) stands notLink (ih dir onward)

/-- A walk to a directory goes on to one that this holds, whatever it does at the end of its steps. -/
theorem Leads.concat {front : List Step} {mid : Location}
    (h : fs.Leads .follow links loc front mid)
    (stands : fs.entry? (name :: mid) = some .directory) (last : LastStep) :
    fs.Leads last links loc (front ++ [.down name]) (name :: mid) := by
  have dir : fs.entry? mid = some .directory := entry?_parent stands
  -- The last step is one down, so that no step before it is the end or has a slash after it only.
  have allowed : ∀ front : List Step, ¬ IsSlashRefused last (front ++ [.down name]) := by
    rintro front ⟨-, -, empty⟩
    cases empty (.down name) (by simp)
  have step : fs.Leads last 0 mid [.down name] (name :: mid) :=
    .down dir (by simp [IsSlashRefused]) stands (by simp) .done
  exact h.append dir step (.inr (by simp)) allowed

/-! ## What a walk takes from its steps -/

/-- A walk from a directory can do without the steps that stay there. -/
theorem Leads.stay_all {front : List Step} (dir : fs.entry? loc = some .directory)
    (still : ∀ step ∈ front, step.moves = false) (h : fs.Leads last links loc rest dest) :
    fs.Leads last links loc (front ++ rest) dest := by
  induction front with
  | nil => exact h
  | cons step front ih =>
    exact .stay dir (still step List.mem_cons_self)
      (ih fun other mem => still other (List.mem_cons_of_mem _ mem))

/-- Where a walk arrives at a directory, all that matters of its steps are those that move. -/
theorem Leads.of_moves_eq {other : List Step} (h : fs.Leads .follow links loc steps dest)
    (dir : fs.entry? dest = some .directory)
    (same : other.filter Step.moves = steps.filter Step.moves) :
    fs.Leads .follow links loc other dest := by
  have allowed : ∀ rest, ¬ IsSlashRefused .follow rest := by simp [IsSlashRefused]
  -- A step that moves is found among the other steps behind some that stay.
  have behind : ∀ {step : Step} {rest other : List Step}, step.moves = true →
      other.filter Step.moves = (step :: rest).filter Step.moves →
      ∃ front later, other = front ++ step :: later ∧ (∀ step ∈ front, step.moves = false) ∧
        later.filter Step.moves = rest.filter Step.moves := by
    intro step rest other moves same
    rw [List.filter_cons_of_pos moves, List.filter_eq_cons_iff] at same
    obtain ⟨front, later, rfl, still, -, others⟩ := same
    exact ⟨front, later, rfl, by simpa using still, others⟩
  induction h generalizing other with
  | done =>
    have still : ∀ step ∈ other, step.moves = false := by
      simpa using List.filter_eq_nil_iff.1 same
    simpa using Leads.stay_all dir still .done
  | stay _ still _ ih =>
    rw [List.filter_cons_of_neg (by simp [still])] at same
    exact ih dir same
  | up here _ ih =>
    obtain ⟨front, later, rfl, still, others⟩ := behind rfl same
    exact .stay_all here still (.up here (ih dir others))
  | vacant _ _ missing => cases missing.symm.trans dir
  | keep _ _ kept => cases kept
  | follow here _ found _ _ ih =>
    obtain ⟨front, later, rfl, still, others⟩ := behind rfl same
    refine .stay_all here still (.follow here (allowed _) found (by simp) (ih dir ?_))
    rw [List.filter_append, List.filter_append, others]
  | down here _ stands notLink _ ih =>
    obtain ⟨front, later, rfl, still, others⟩ := behind rfl same
    exact .stay_all here still (.down here (allowed _) stands notLink (ih dir others))

/-- Every name that a walk is to go down to is looked up, so that an entry can have it. -/
theorem Leads.isValid_of_mem (h : fs.Leads last links loc steps dest) (mem : .down name ∈ steps) :
    name.isValid = true := by
  induction h with
  | done => cases mem
  | @stay _ _ _ step _ _ still _ ih =>
    rcases List.mem_cons.1 mem with rfl | mem
    · cases still
    · exact ih mem
  | up _ _ ih =>
    rcases List.mem_cons.1 mem with same | mem
    · cases same
    · exact ih mem
  | vacant _ valid _ =>
    cases List.mem_singleton.1 mem
    exact valid
  | keep _ found _ =>
    cases List.mem_singleton.1 mem
    exact (isPlace_of_entry found).1
  | follow _ _ found _ _ ih =>
    rcases List.mem_cons.1 mem with same | mem
    · cases same
      exact (isPlace_of_entry found).1
    · exact ih (List.mem_append_right _ mem)
  | down _ _ stands _ _ ih =>
    rcases List.mem_cons.1 mem with same | mem
    · cases same
      exact (isPlace_of_entry stands).1
    · exact ih mem

/-! ## Lookups of paths -/

variable {path : Path} {found : Entry}

/-- What goes on with a result comes to an end if there is one and it does. -/
theorem bind_eq_ok_iff {ε α β : Type} {first : Except ε α} {next : α → Except ε β} {result : β} :
    first >>= next = .ok result ↔ ∃ value, first = .ok value ∧ next value = .ok result := by
  cases first with
  | error fault => simp [bind, Except.bind]
  | ok value => simp [bind, Except.bind]

theorem checkPath_eq_ok_iff :
    checkPath path = .ok () ↔
      0 ∉ path.bytes ∧ path.bytes ≠ [] ∧ path.bytes.length ≤ maxPathLength := by
  unfold checkPath
  split_ifs with zero empty long
  · simp [zero]
  · simp [empty]
  · simp [Nat.not_le.2 long]
  · simp [zero, empty, Nat.le_of_not_lt long]

theorem locate_eq_ok_iff :
    fs.locate path last = .ok dest ↔
      checkPath path = .ok () ∧ fs.Leads last maxLinks [] path.steps dest := by
  rw [locate, locateFrom, ← walkLinks_eq_ok_iff, ite_self, bind_eq_ok_iff]
  exact ⟨fun ⟨(), led⟩ => led, fun led => ⟨(), led⟩⟩

theorem find_eq_ok_iff :
    fs.find path last = .ok (dest, found) ↔
      fs.locate path last = .ok dest ∧ fs.entry? dest = some found := by
  rw [find, findFrom, locate, bind_eq_ok_iff]
  constructor
  · rintro ⟨loc, led, here⟩
    cases stands : fs.entry? loc with
    | none =>
      rw [stands] at here
      cases here
    | some entry =>
      rw [stands] at here
      cases here
      exact ⟨led, stands⟩
  · rintro ⟨led, stands⟩
    refine ⟨dest, led, ?_⟩
    rw [stands]

theorem isDirectory_eq_true_iff :
    fs.isDirectory path = true ↔ ∃ loc, fs.find path .follow = .ok (loc, .directory) := by
  unfold isDirectory
  split
  · rename_i loc found
    simp [found]
  · rename_i other
    simpa using other

theorem isPresent_eq_true_iff :
    fs.isPresent path = true ↔ ∃ loc found, fs.find path .follow = .ok (loc, found) := by
  unfold isPresent
  cases fs.find path .follow with
  | error fault => simp [Except.isOk, Except.toBool]
  | ok result =>
    obtain ⟨loc, found⟩ := result
    simp [Except.isOk, Except.toBool]

theorem canonical_eq_ok_iff :
    fs.canonical path = .ok dest ↔
      (∃ found, fs.find path .follow = .ok (dest, found)) ∧
        checkPath (.ofLocation dest) = .ok () := by
  rw [canonical, bind_eq_ok_iff]
  constructor
  · rintro ⟨⟨loc, found⟩, led, rest⟩
    obtain ⟨_, checked, here⟩ := bind_eq_ok_iff.1 rest
    cases here
    exact ⟨⟨found, led⟩, checked⟩
  · rintro ⟨⟨found, led⟩, checked⟩
    exact ⟨(dest, found), led, bind_eq_ok_iff.2 ⟨(), checked, rfl⟩⟩

theorem sameFile_eq_true_iff {a b : Path} :
    fs.sameFile a b = true ↔ ∃ loc, fs.canonical a = .ok loc ∧ fs.canonical b = .ok loc := by
  unfold sameFile
  split
  · rename_i locA locB hA hB
    rw [hA, hB, decide_eq_true_eq]
    constructor
    · rintro rfl
      exact ⟨locA, rfl, rfl⟩
    · rintro ⟨loc, hA, hB⟩
      exact Except.ok.inj (hA.trans hB.symm)
  · rename_i none
    simp only [Bool.false_eq_true, false_iff]
    rintro ⟨loc, hA, hB⟩
    exact none loc loc hA hB

/-- A path leads to a place. -/
theorem isPlace_of_locate (h : fs.locate path last = .ok dest) : fs.IsPlace dest :=
  (locate_eq_ok_iff.1 h).2.isPlace trivial

/-- A path that leads to an entry leads there in every extended file system. -/
theorem Extends.find (ext : fs.Extends later) (h : fs.find path last = .ok (dest, found)) :
    later.find path last = .ok (dest, found) := by
  obtain ⟨located, stands⟩ := find_eq_ok_iff.1 h
  obtain ⟨checked, leads⟩ := locate_eq_ok_iff.1 located
  have noLink : fs.entry? dest = none → ∀ target, later.entry? dest ≠ some (.link target) := by
    intro missing
    simp [stands] at missing
  exact find_eq_ok_iff.2
    ⟨locate_eq_ok_iff.2 ⟨checked, leads.extend ext noLink⟩, ext.entry stands⟩

theorem Extends.isDirectory (ext : fs.Extends later) (h : fs.isDirectory path = true) :
    later.isDirectory path = true := by
  obtain ⟨loc, found⟩ := isDirectory_eq_true_iff.1 h
  exact isDirectory_eq_true_iff.2 ⟨loc, ext.find found⟩

/-- Where a lookup for reading finds something other than a directory, one for writing ends. -/
theorem locate_write_of_find_follow (h : fs.find path .follow = .ok (dest, found))
    (notDir : found ≠ .directory) : fs.locate path .write = .ok dest := by
  obtain ⟨located, stands⟩ := find_eq_ok_iff.1 h
  obtain ⟨checked, leads⟩ := locate_eq_ok_iff.1 located
  refine locate_eq_ok_iff.2 ⟨checked, leads.write_of_follow ?_⟩
  rw [stands]
  simpa using notDir

/-- Where a lookup for writing ends, one for reading finds what stands there. -/
theorem find_follow_of_locate_write (h : fs.locate path .write = .ok dest)
    (stands : fs.entry? dest = some found) : fs.find path .follow = .ok (dest, found) := by
  obtain ⟨checked, leads⟩ := locate_eq_ok_iff.1 h
  exact find_eq_ok_iff.2 ⟨locate_eq_ok_iff.2 ⟨checked, leads.follow_of_write⟩, stands⟩

end LineShell.FileSystem
