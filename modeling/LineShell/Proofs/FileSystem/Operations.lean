import Mathlib.Data.List.DropRight
import LineShell.Proofs.FileSystem.Walk
import LineShell.Proofs.Path.Location

/-!
# What operations do

Two views of the operations that change files. Given that one succeeds, what it can have done:

- `makeDirectory_eq_ok_iff`, `createFile_eq_ok_iff`: it has added an entry where the path leads to
  nothing.

And along the paths that spell locations, what it does:

- `locate_ofLocation`: such a path leads to the location that it spells, for everything above an
  entry is a directory and no link is crossed;
- `eq_of_locate_ofLocation`: where there are no links at all, it leads nowhere else;
- `makeDirectory_ofLocation`, `list_ofLocation`: the operations act right there.

In between are the paths to the entries of a directory that has been found, by whatever path. Such a
path leads to the entry itself if that is a directory (`find_entry`), and it leads to a directory
exactly if the entry is one or a link to one (`isDirectory_entry_iff`).
-/

namespace LineShell.FileSystem

open LineShell.Path (Step ofLocation)

variable {fs later : FileSystem} {last : LastStep} {links : Nat} {loc dest parent : Location}
  {rest : List Step} {name : Name} {path source target : Path} {found : Entry} {id : FileId}
  {size : Nat}

/-! ## What an operation can have done -/

/-- Something is made at a location if nothing stands there. The root is always there. -/
private theorem make_eq_ok_iff {loc : Location} {make : Location → Name → FileSystem}
    {fault : Fault} :
    (match loc, fs.entry? loc with
      | name :: parent, none => (.ok (make parent name) : Except Fault FileSystem)
      | _, _ => .error fault) = .ok later ↔
      ∃ name parent, loc = name :: parent ∧ fs.entry? (name :: parent) = none ∧
        later = make parent name := by
  split
  · rename_i name parent vacant
    constructor
    · intro made
      exact ⟨name, parent, rfl, vacant, (Except.ok.inj made).symm⟩
    · rintro ⟨_, _, same, -, rfl⟩
      cases same
      rfl
  · rename_i taken
    refine iff_of_false (by simp) ?_
    rintro ⟨name, parent, rfl, vacant, -⟩
    exact taken name parent rfl vacant

/-- A directory is made where the path leads without the slashes at its end, if nothing stands
there. -/
theorem makeDirectory_eq_ok_iff :
    fs.makeDirectory path = .ok later ↔
      ∃ name parent, checkPath path = .ok () ∧
        fs.Leads .keep maxLinks [] (path.steps.rdropWhile (· = .empty)) (name :: parent) ∧
        fs.entry? (name :: parent) = none ∧ later = fs.add parent name .directory := by
  have trimmed : (path.steps.reverse.dropWhile (· = .empty)).reverse =
      path.steps.rdropWhile (· = .empty) := rfl
  simp only [makeDirectory, trimmed, ← walkLinks_eq_ok_iff]
  rw [bind_eq_ok_iff]
  constructor
  · rintro ⟨⟨⟩, checked, goesOn⟩
    obtain ⟨loc, led, made⟩ := bind_eq_ok_iff.1 goesOn
    obtain ⟨name, parent, rfl, vacant, added⟩ := make_eq_ok_iff.1 made
    exact ⟨name, parent, checked, led, vacant, added⟩
  · rintro ⟨name, parent, checked, led, vacant, added⟩
    refine ⟨(), checked, bind_eq_ok_iff.2 ⟨_, led, ?_⟩⟩
    exact make_eq_ok_iff.2 ⟨name, parent, rfl, vacant, added⟩

/-- A directory that has been made stands at a place that was vacant. -/
theorem exists_of_makeDirectory (h : fs.makeDirectory path = .ok later) :
    ∃ name parent, fs.IsPlace (name :: parent) ∧ fs.entry? (name :: parent) = none ∧
      later = fs.add parent name .directory := by
  obtain ⟨name, parent, -, leads, vacant, added⟩ := makeDirectory_eq_ok_iff.1 h
  exact ⟨name, parent, leads.isPlace trivial, vacant, added⟩

/-- A file is made, an empty one, where the path leads if nothing stands there. -/
theorem createFile_eq_ok_iff :
    fs.createFile path = .ok later ↔
      ∃ name parent, fs.locate path .keep = .ok (name :: parent) ∧
        fs.entry? (name :: parent) = none ∧ later = fs.addFile parent name ⟨[], false⟩ := by
  rw [createFile, bind_eq_ok_iff]
  constructor
  · rintro ⟨loc, located, made⟩
    obtain ⟨name, parent, rfl, vacant, added⟩ := make_eq_ok_iff.1 made
    exact ⟨name, parent, located, vacant, added⟩
  · rintro ⟨name, parent, located, vacant, added⟩
    exact ⟨_, located, make_eq_ok_iff.2 ⟨name, parent, rfl, vacant, added⟩⟩

theorem extends_makeDirectory (h : fs.makeDirectory path = .ok later) : fs.Extends later := by
  obtain ⟨name, parent, -, -, rfl⟩ := exists_of_makeDirectory h
  exact extends_add

/-- What a listing has are the names in the directory to which the path leads. -/
theorem list_eq_ok_iff {names : List Name} :
    fs.list path = .ok names ↔
      ∃ loc, fs.find path .follow = .ok (loc, .directory) ∧ fs.names loc = names := by
  rw [list, bind_eq_ok_iff]
  constructor
  · rintro ⟨⟨loc, entry⟩, found, listed⟩
    cases entry with
    | directory => exact ⟨loc, found, Except.ok.inj listed⟩
    | file _ => cases listed
    | link _ => cases listed
    | nullDevice => cases listed
  · rintro ⟨loc, found, rfl⟩
    exact ⟨_, found, rfl⟩

/-! ## Lookups along the path of a location -/

/-- The names of a place are valid. -/
theorem IsPlace.isValid (place : fs.IsPlace loc) : ∀ name ∈ loc, Name.isValid name = true := by
  cases loc with
  | nil => simp
  | cons first parent =>
    intro name mem
    rcases List.mem_cons.1 mem with rfl | mem
    · exact place.1
    · exact isValid_of_entry place.2 name mem

/-- The names of a place can stand between slashes. -/
theorem IsPlace.isStep (place : fs.IsPlace loc) : ∀ name ∈ loc, Name.IsStep name :=
  fun name mem => Name.isStep_of_isValid (place.isValid name mem)

/-- A walk goes down through directories to the last of them. -/
private theorem leads_through {below start : Location}
    (dir : fs.entry? (below ++ start) = some .directory) (allowed : ¬ IsSlashRefused last rest)
    (onward : fs.Leads last links (below ++ start) rest dest) :
    fs.Leads last links start (below.reverse.map .down ++ rest) dest := by
  -- The induction is on the way down from its end, so that the steps after it grow.
  induction below generalizing rest with
  | nil => simpa using onward
  | cons name below ih =>
    have parentDir : fs.entry? (below ++ start) = some .directory := entry?_parent dir
    have notSlash : ¬ IsSlashRefused last (.down name :: rest) := by
      rintro ⟨-, -, empty⟩
      cases empty (.down name) (by simp)
    simpa using ih parentDir notSlash (.down parentDir allowed dir (by simp) onward)

private theorem leads_ofLocation (last : LastStep) (links : Nat) (place : fs.IsPlace loc)
    (kept : last = .keep ∨ ∀ target, fs.entry? loc ≠ some (.link target)) :
    fs.Leads last links [] (ofLocation loc).steps loc := by
  cases loc with
  | nil =>
    rw [Path.steps_ofLocation_nil]
    exact .stay rfl rfl (.stay rfl rfl .done)
  | cons name parent =>
    rw [Path.steps_ofLocation place.isStep (by simp), List.reverse_cons, List.map_append]
    refine .stay rfl rfl ?_
    have dir : fs.entry? (parent ++ []) = some .directory := by simpa using place.2
    have notSlash : ¬ IsSlashRefused last [.down name] := by
      rintro ⟨-, -, empty⟩
      cases empty (.down name) (by simp)
    refine leads_through dir notSlash ?_
    rw [List.append_nil]
    cases stands : fs.entry? (name :: parent) with
    | none => exact .vacant place.2 place.1 stands
    | some found =>
      rcases kept with kept | noLink
      · cases found with
        | link target => exact .keep place.2 stands kept
        | directory => exact .down place.2 (by simp [IsSlashRefused]) stands (by simp) .done
        | file id => exact .down place.2 (by simp [IsSlashRefused]) stands (by simp) .done
        | nullDevice => exact .down place.2 (by simp [IsSlashRefused]) stands (by simp) .done
      · refine .down place.2 (by simp [IsSlashRefused]) stands ?_ .done
        rintro target rfl
        exact noLink target stands

/-- The path of a place leads there, if it is not too long and no link stands there. -/
theorem locate_ofLocation (last : LastStep) (place : fs.IsPlace loc)
    (checked : checkPath (ofLocation loc) = .ok ())
    (kept : last = .keep ∨ ∀ target, fs.entry? loc ≠ some (.link target)) :
    fs.locate (ofLocation loc) last = .ok loc :=
  locate_eq_ok_iff.2 ⟨checked, leads_ofLocation last maxLinks place kept⟩

/-- A walk down that meets no links ends where the names lead. -/
private theorem eq_of_leads_down (noLink : ∀ loc target, fs.entry? loc ≠ some (.link target))
    {names : List Name} {start : Location}
    (h : fs.Leads last links start (names.map .down) dest) : dest = names.reverse ++ start := by
  -- Of the rules only those for steps down apply, and without links only `vacant` and `down`.
  induction names generalizing start with
  | nil =>
    cases h
    rfl
  | cons name rest ih =>
    rw [List.map_cons] at h
    rw [List.reverse_cons, List.append_assoc]
    generalize steps : rest.map Step.down = below at h
    cases h with
    | stay _ still _ => cases still
    | vacant _ _ _ =>
      rw [List.map_eq_nil_iff.1 steps]
      rfl
    | keep _ found _ => exact absurd found (noLink _ _)
    | follow _ _ found _ _ => exact absurd found (noLink _ _)
    | down _ _ _ _ onward =>
      subst steps
      exact ih onward

/-- Where there are no links, the path that spells a location leads nowhere else. -/
theorem eq_of_locate_ofLocation (noLink : ∀ loc target, fs.entry? loc ≠ some (.link target))
    (areSteps : ∀ name ∈ loc, Name.IsStep name) (h : fs.locate (ofLocation loc) last = .ok dest) :
    dest = loc := by
  have leads := (locate_eq_ok_iff.1 h).2
  by_cases root : loc = []
  · subst root
    rw [Path.steps_ofLocation_nil] at leads
    cases leads with
    | stay _ _ onward =>
      cases onward with
      | stay _ _ onward =>
        cases onward
        rfl
  · rw [Path.steps_ofLocation areSteps root] at leads
    cases leads with
    | stay _ _ onward =>
      have walked := eq_of_leads_down noLink onward
      rwa [List.reverse_reverse, List.append_nil] at walked

/-- The path to an entry can be looked up unless it is too long. -/
theorem checkPath_entry (checked : checkPath path = .ok ()) (valid : name.isValid = true) :
    checkPath (path.entry name) =
      if maxPathLength < (path.entry name).bytes.length then .error (.refused .nameTooLong)
      else .ok () := by
  have isStep := Name.isStep_of_isValid valid
  have noZero : 0 ∉ (path.entry name).bytes := by
    have inPath := (checkPath_eq_ok_iff.1 checked).1
    have inName : 0 ∉ name := Name.zero_notMem_of_isValid valid
    have notSlash : (0 : UInt8) ≠ Path.slash := by decide
    rcases Path.bytes_entry isStep with written | written
    · rw [written, List.mem_append, not_or]
      exact ⟨inPath, inName⟩
    · rw [written, List.mem_append, List.mem_cons, not_or, not_or]
      exact ⟨inPath, notSlash, inName⟩
  have notEmpty : (path.entry name).bytes ≠ [] :=
    List.ne_nil_of_length_pos (Nat.zero_lt_of_lt (Path.length_lt_entry isStep))
  rw [checkPath, if_neg noZero, if_neg notEmpty]

/-- An entry of the directory at a location, to which a path leads, is a directory when links are
followed: it is one itself, or it is a link, and its target leads to one. The links on the way to the
directory count too. -/
def LeadsToDirectory (fs : FileSystem) (path : Path) (parent : Location) (name : Name) : Prop :=
  fs.entry? (name :: parent) = some .directory ∨
    ∃ target dest used left, fs.entry? (name :: parent) = some (.link target) ∧
      used + left < maxLinks ∧ fs.Leads .follow used [] path.steps parent ∧
      fs.Leads .follow left (if target.isAbsolute then [] else parent) target.steps dest ∧
      fs.entry? dest = some .directory

section Entry

variable (there : fs.find path .follow = .ok (parent, .directory))

include there

/-- The steps to an entry are those that lead to its directory and one step down. -/
private theorem exists_steps_to_entry (isStep : name.IsStep) :
    ∃ front, (path.entry name).steps = front ++ [.down name] ∧
      ∀ links, fs.Leads .follow links [] path.steps parent ↔
        fs.Leads .follow links [] front parent := by
  obtain ⟨located, stands⟩ := find_eq_ok_iff.1 there
  obtain ⟨front, toEntry, toParent⟩ :=
    Path.exists_steps_entry isStep (checkPath_eq_ok_iff.1 (locate_eq_ok_iff.1 located).1).2.1
  refine ⟨front, toEntry, fun links => ?_⟩
  -- A trailing slash of the path does not matter to where it leads.
  rcases toParent with same | slashed
  · rw [same]
  · rw [slashed]
    constructor
    · intro led
      obtain ⟨mid, used, left, shared, begun, onward⟩ := led.split
      cases onward.of_still rfl
      exact begun.mono (Nat.le.intro shared)
    · intro led
      have slash : fs.Leads .follow 0 parent [.empty] parent := .stay stands rfl .done
      exact led.append stands slash (.inl rfl) (by simp [IsSlashRefused])

private theorem exists_steps_from_root (isStep : name.IsStep) :
    ∃ front, (path.entry name).steps = front ++ [.down name] ∧
      fs.Leads .follow maxLinks [] front parent := by
  obtain ⟨front, toEntry, leads⟩ := exists_steps_to_entry there isStep
  exact ⟨front, toEntry, (leads _).1 (locate_eq_ok_iff.1 (find_eq_ok_iff.1 there).1).2⟩

/-- The path to an entry of a directory leads to that entry, if it is a directory too. -/
theorem eq_of_find_entry (stands : fs.entry? (name :: parent) = some .directory)
    (h : fs.find (path.entry name) .keep = .ok (loc, found)) : loc = name :: parent := by
  have isStep := Name.isStep_of_isValid (isPlace_of_entry stands).1
  obtain ⟨front, toEntry, begun⟩ := exists_steps_from_root there isStep
  have onward := (locate_eq_ok_iff.1 (find_eq_ok_iff.1 h).1).2
  rw [toEntry] at onward
  obtain ⟨left, last⟩ := onward.onward begun (.inr (by simp))
  cases last.of_down_entry stands (by simp)
  rfl

/-- It does lead there unless it is too long. -/
theorem find_entry (stands : fs.entry? (name :: parent) = some .directory)
    (short : (path.entry name).bytes.length ≤ maxPathLength) (last : LastStep) :
    fs.find (path.entry name) last = .ok (name :: parent, .directory) := by
  obtain ⟨valid, -⟩ := isPlace_of_entry stands
  have checked := checkPath_entry (locate_eq_ok_iff.1 (find_eq_ok_iff.1 there).1).1 valid
  rw [if_neg (Nat.not_lt.2 short)] at checked
  obtain ⟨front, toEntry, begun⟩ := exists_steps_from_root there (Name.isStep_of_isValid valid)
  refine find_eq_ok_iff.2 ⟨locate_eq_ok_iff.2 ⟨checked, ?_⟩, stands⟩
  rw [toEntry]
  exact begun.concat stands last

/-- The path to an entry leads to a directory if a walk to its directory, and one step down from
there, do so with the links of one lookup. -/
private theorem isDirectory_entry_iff_leads (valid : name.isValid = true)
    (short : (path.entry name).bytes.length ≤ maxPathLength) :
    fs.isDirectory (path.entry name) = true ↔
      ∃ used left dest, used + left ≤ maxLinks ∧ fs.Leads .follow used [] path.steps parent ∧
        fs.Leads .follow left parent [.down name] dest ∧ fs.entry? dest = some .directory := by
  obtain ⟨located, dir⟩ := find_eq_ok_iff.1 there
  obtain ⟨checkedPath, toParent⟩ := locate_eq_ok_iff.1 located
  have checked := checkPath_entry checkedPath valid
  rw [if_neg (Nat.not_lt.2 short)] at checked
  obtain ⟨front, toEntry, leads⟩ := exists_steps_to_entry there (Name.isStep_of_isValid valid)
  simp only [isDirectory_eq_true_iff, find_eq_ok_iff, locate_eq_ok_iff, checked, true_and, toEntry]
  constructor
  · rintro ⟨dest, along, destDir⟩
    obtain ⟨mid, used, left, shared, begun, last⟩ := along.split
    -- Both walks take the same steps to the directory, so they end at the same place.
    have same : mid = parent := by
      have again : fs.Leads .follow used [] (front ++ []) mid := by rwa [List.append_nil]
      obtain ⟨_, stay⟩ := again.onward ((leads maxLinks).1 toParent) (.inl rfl)
      cases stay
      rfl
    subst same
    exact ⟨used, left, dest, shared.le, (leads used).2 begun, last, destDir⟩
  · rintro ⟨used, left, dest, few, begun, last, destDir⟩
    have along := ((leads used).1 begun).append dir last (.inl rfl) (by simp [IsSlashRefused])
    exact ⟨dest, along.mono few, destDir⟩

/-- The path to an entry leads to a directory if the entry is one when links are followed, unless the
path is too long. -/
theorem isDirectory_entry_iff (stands : fs.entry? (name :: parent) = some found)
    (short : (path.entry name).bytes.length ≤ maxPathLength) :
    fs.isDirectory (path.entry name) = true ↔ fs.LeadsToDirectory path parent name := by
  obtain ⟨valid, dir⟩ := isPlace_of_entry stands
  constructor
  · intro isDirectory
    obtain ⟨used, left, dest, few, begun, last, destDir⟩ :=
      (isDirectory_entry_iff_leads there valid short).1 isDirectory
    by_cases link : ∃ target, found = .link target
    · obtain ⟨target, rfl⟩ := link
      -- One of the links that are left is the entry itself.
      obtain ⟨fewer, rfl, onward⟩ := last.of_down_link stands (by simp)
      rw [List.append_nil] at onward
      exact .inr ⟨target, dest, used, fewer, stands, few, begun, onward, destDir⟩
    · cases last.of_down_entry stands (fun target same => link ⟨target, same⟩)
      exact .inl destDir
  · rintro (isDir | ⟨target, dest, used, left, link, few, begun, onward, destDir⟩)
    · exact isDirectory_eq_true_iff.2 ⟨_, find_entry there isDir short .follow⟩
    · have step : fs.Leads .follow (left + 1) parent [.down name] dest :=
        .follow dir (by simp [IsSlashRefused]) link (by simp) (by rwa [List.append_nil])
      exact (isDirectory_entry_iff_leads there valid short).2
        ⟨used, left + 1, dest, few, begun, step, destDir⟩

end Entry

section Canonical

variable (place : fs.IsPlace loc) (checked : checkPath (ofLocation loc) = .ok ())
  (noLink : ∀ target, fs.entry? loc ≠ some (.link target))

include place checked noLink

theorem find_ofLocation_eq_ok_iff {other : Location} :
    fs.find (ofLocation loc) .follow = .ok (other, found) ↔
      other = loc ∧ fs.entry? loc = some found := by
  rw [find_eq_ok_iff, locate_ofLocation .follow place checked (.inr noLink), Except.ok.injEq,
    eq_comm]
  constructor
  · rintro ⟨rfl, stands⟩
    exact ⟨rfl, stands⟩
  · rintro ⟨rfl, stands⟩
    exact ⟨rfl, stands⟩

theorem isDirectory_ofLocation :
    fs.isDirectory (ofLocation loc) = true ↔ fs.entry? loc = some .directory := by
  simp [isDirectory_eq_true_iff, find_ofLocation_eq_ok_iff place checked noLink]

theorem isPresent_ofLocation :
    fs.isPresent (ofLocation loc) = true ↔ fs.entry? loc ≠ none := by
  simp [isPresent_eq_true_iff, find_ofLocation_eq_ok_iff place checked noLink,
    Option.ne_none_iff_exists']

end Canonical

/-- Where there are no links, the path that spells a location leads to a directory if one is right
there. -/
theorem isDirectory_ofLocation_iff_of_noLink
    (noLink : ∀ loc target, fs.entry? loc ≠ some (.link target))
    (areSteps : ∀ name ∈ loc, Name.IsStep name) :
    fs.isDirectory (ofLocation loc) = true ↔
      checkPath (ofLocation loc) = .ok () ∧ fs.entry? loc = some .directory := by
  constructor
  · intro dir
    obtain ⟨other, found⟩ := isDirectory_eq_true_iff.1 dir
    obtain ⟨located, stands⟩ := find_eq_ok_iff.1 found
    rw [eq_of_locate_ofLocation noLink areSteps located] at stands
    exact ⟨(locate_eq_ok_iff.1 located).1, stands⟩
  · rintro ⟨checked, stands⟩
    exact (isDirectory_ofLocation (isPlace_of_entry stands) checked (noLink loc)).2 stands

theorem list_ofLocation (checked : checkPath (ofLocation loc) = .ok ())
    (dir : fs.entry? loc = some .directory) :
    fs.list (ofLocation loc) = .ok (fs.names loc) := by
  have found : fs.find (ofLocation loc) .follow = .ok (loc, .directory) :=
    (find_ofLocation_eq_ok_iff (isPlace_of_entry dir) checked (by simp [dir])).2 ⟨rfl, dir⟩
  simp [list, found, bind, Except.bind]

/-! ## Changes along the path of a location -/

theorem makeDirectory_ofLocation (place : fs.IsPlace (name :: parent))
    (checked : checkPath (ofLocation (name :: parent)) = .ok ())
    (vacant : fs.entry? (name :: parent) = none) :
    fs.makeDirectory (ofLocation (name :: parent)) = .ok (fs.add parent name .directory) := by
  have trimmed : ((ofLocation (name :: parent)).steps.reverse.dropWhile (· = .empty)).reverse =
      (ofLocation (name :: parent)).steps := by
    rw [Path.steps_ofLocation place.isStep (by simp)]
    simp
  have located := walkLinks_eq_ok_iff.2 (leads_ofLocation .keep maxLinks place (.inl rfl))
  simp only [makeDirectory, checked, bind, Except.bind, trimmed, located, vacant]

end LineShell.FileSystem
