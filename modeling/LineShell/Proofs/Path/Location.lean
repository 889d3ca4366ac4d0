import Mathlib.Data.List.Basic
import LineShell.FileSystem.Lookup

/-!
# Paths that spell locations

Every location has one path that spells it: a slash and the names from the root down, with slashes
between them. These are exactly the absolute normal paths, and on them the lexical operations on
paths are operations on locations:

- `entry_ofLocation`: the path to an entry spells the location one name longer;
- `startsWith_ofLocation`: one path begins with another when one location lies at or below the
  other;
- `normalize_eq_ofLocation`: the normal form of an absolute path spells the location at which its
  steps arrive one after the other, where a name goes down and `..` goes up, or stays at the root.

Only the written path matters here. Whether a path leads to the location that it spells is another
question, which depends on the links in a file system.
-/

namespace LineShell

/-- A name that can stand between two slashes of a path and is then a step down. -/
def Name.IsStep (name : Name) : Prop :=
  Path.Step.ofBytes name = .down name ∧ Path.slash ∉ name

theorem Name.IsStep.ne_nil {name : Name} (h : name.IsStep) : name ≠ [] := by
  rintro rfl
  simp [IsStep, Path.Step.ofBytes] at h

/-- A name that an entry can have is a step down. -/
theorem Name.isStep_of_isValid {name : Name} (h : name.isValid = true) : name.IsStep := by
  simp only [isValid, Bool.and_eq_true, decide_eq_true_eq, Bool.not_eq_true',
    List.contains_eq_mem, decide_eq_false_iff_not] at h
  obtain ⟨⟨⟨⟨⟨notEmpty, notHere⟩, notUp⟩, noSlash⟩, -⟩, -⟩ := h
  refine ⟨?_, noSlash⟩
  rw [Path.Step.ofBytes, if_neg notEmpty, if_neg notHere, if_neg notUp]

theorem Name.zero_notMem_of_isValid {name : Name} (h : name.isValid = true) : 0 ∉ name := by
  intro mem
  simp [isValid, mem] at h

/-- A step down is the name of an entry if it is not too long and has no zero byte. -/
theorem Name.IsStep.isValid {name : Name} (h : name.IsStep) (noZero : 0 ∉ name)
    (short : name.length ≤ maxNameLength) : name.isValid = true := by
  obtain ⟨down, noSlash⟩ := h
  unfold Path.Step.ofBytes at down
  split_ifs at down with empty here up
  simp [Name.isValid, empty, here, up, noSlash, noZero, short]

namespace Path

/-- The name that a step leads down to. -/
def Step.name? : Step → Option Name
  | .down name => some name
  | _ => none

/-- The location that the steps down of a path spell. -/
def location (path : Path) : Location :=
  (path.steps.filterMap Step.name?).reverse

variable {loc parent : Location} {name : Name}

/-! ## How a location is written -/

theorem bytes_ofLocation (loc : Location) :
    (ofLocation loc).bytes = slash :: [slash].intercalate loc.reverse := by
  have written : (loc.reverse.map Step.down).map Step.toBytes = loc.reverse := by
    rw [List.map_map]
    exact List.map_id _
  rw [ofLocation, ofSteps, if_pos rfl, written]

@[simp]
theorem isAbsolute_ofLocation (loc : Location) : (ofLocation loc).isAbsolute = true := by
  simp [isAbsolute, bytes_ofLocation]

private theorem intercalate_concat (pieces : List Bytes) (last : Bytes) (h : pieces ≠ []) :
    [slash].intercalate (pieces ++ [last]) = [slash].intercalate pieces ++ slash :: last := by
  -- A slash stands between two pieces, so the induction looks at two of them.
  induction pieces with
  | nil => exact absurd rfl h
  | cons first rest ih =>
    cases rest with
    | nil => simp
    | cons second rest =>
      have ih := ih (by simp)
      simp only [List.cons_append, List.intercalate_cons_cons] at ih ⊢
      rw [ih]
      simp

theorem bytes_ofLocation_singleton (name : Name) :
    (ofLocation [name]).bytes = slash :: name := by
  simp [bytes_ofLocation]

theorem bytes_ofLocation_cons (name : Name) (h : parent ≠ []) :
    (ofLocation (name :: parent)).bytes = (ofLocation parent).bytes ++ slash :: name := by
  rw [bytes_ofLocation, bytes_ofLocation, List.reverse_cons,
    intercalate_concat _ _ (by simpa using h), List.cons_append]

/-- An entry's path is longer than that of its directory. -/
theorem length_ofLocation_lt (h : name ≠ []) :
    (ofLocation parent).bytes.length < (ofLocation (name :: parent)).bytes.length := by
  have pos : 0 < name.length := List.length_pos_iff.2 h
  cases parent with
  | nil =>
    rw [bytes_ofLocation_singleton, bytes_ofLocation]
    simpa using pos
  | cons first rest =>
    rw [bytes_ofLocation_cons name (by simp), List.length_append, List.length_cons]
    omega

/-- Each name on the way down makes the path longer. -/
theorem length_ofLocation_append {below : Location} (h : ∀ name ∈ below, name ≠ []) :
    (ofLocation loc).bytes.length + below.length ≤ (ofLocation (below ++ loc)).bytes.length := by
  induction below with
  | nil => exact Nat.le_refl _
  | cons name below ih =>
    have shorter := ih fun other mem => h other (List.mem_cons_of_mem _ mem)
    have longer : (ofLocation (below ++ loc)).bytes.length <
        (ofLocation (name :: (below ++ loc))).bytes.length :=
      length_ofLocation_lt (h name List.mem_cons_self)
    rw [List.length_cons, List.cons_append]
    omega

/-- The names in a location are written out in its path. -/
theorem mem_bytes_ofLocation {byte : UInt8} (hname : name ∈ loc) (hbyte : byte ∈ name) :
    byte ∈ (ofLocation loc).bytes := by
  induction loc with
  | nil => cases hname
  | cons first parent ih =>
    cases parent with
    | nil =>
      rw [List.mem_singleton.1 hname] at hbyte
      rw [bytes_ofLocation_singleton]
      exact List.mem_cons_of_mem _ hbyte
    | cons second rest =>
      rw [bytes_ofLocation_cons first (by simp), List.mem_append]
      rcases List.mem_cons.1 hname with rfl | above
      · exact .inr (List.mem_cons_of_mem _ hbyte)
      · exact .inl (ih above)

/-- Besides the names in a location there are only slashes in its path. -/
theorem exists_of_mem_bytes_ofLocation {byte : UInt8} (h : byte ∈ (ofLocation loc).bytes) :
    byte = slash ∨ ∃ name ∈ loc, byte ∈ name := by
  induction loc with
  | nil => exact .inl (by simpa [bytes_ofLocation] using h)
  | cons first parent ih =>
    have split : byte ∈ (ofLocation parent).bytes ∨ byte ∈ slash :: first := by
      cases parent with
      | nil => exact .inr (by rwa [bytes_ofLocation_singleton] at h)
      | cons second rest =>
        rwa [bytes_ofLocation_cons first (by simp), List.mem_append] at h
    rcases split with above | here
    · exact (ih above).imp_right fun ⟨name, mem, holds⟩ =>
        ⟨name, List.mem_cons_of_mem _ mem, holds⟩
    · exact (List.mem_cons.1 here).imp_right fun holds => ⟨first, List.mem_cons_self, holds⟩

/-- The path of a location below the root does not end in a slash. -/
theorem getLast?_ofLocation_cons (h : name.IsStep) :
    (ofLocation (name :: parent)).bytes.getLast? ≠ some slash := by
  have last : ∀ front : Bytes, (front ++ name).getLast? ≠ some slash := by
    intro front same
    rw [List.getLast?_append_of_ne_nil _ h.ne_nil] at same
    exact h.2 (List.mem_of_getLast? same)
  cases parent with
  | nil =>
    rw [bytes_ofLocation_singleton]
    exact last [slash]
  | cons first rest =>
    rw [bytes_ofLocation_cons name (by simp), List.append_cons]
    exact last _

/-- A name is a relative path. -/
theorem isAbsolute_mk_of_isStep (h : name.IsStep) : (Path.mk name).isAbsolute = false := by
  simp only [isAbsolute, decide_eq_false_iff_not]
  intro first
  exact h.2 (List.mem_of_head? first)

/-- The path to an entry of a directory spells the location of the entry. -/
theorem entry_ofLocation (hname : name.IsStep) (hparent : ∀ other ∈ parent, Name.IsStep other) :
    (ofLocation parent).entry name = ofLocation (name :: parent) := by
  rw [entry, join, if_neg (by simp [isAbsolute_mk_of_isStep hname])]
  cases parent with
  | nil =>
    rw [if_pos (by simp [bytes_ofLocation])]
    exact congrArg Path.mk (bytes_ofLocation_singleton name).symm
  | cons first rest =>
    have noSlash : (ofLocation (first :: rest)).bytes.getLast? ≠ some slash :=
      getLast?_ofLocation_cons (hparent first (by simp))
    have notEmpty : (ofLocation (first :: rest)).bytes ≠ [] := by simp [bytes_ofLocation]
    rw [if_neg (by simp [noSlash, notEmpty]), ← bytes_ofLocation_cons name (by simp)]

/-- The path to an entry is that of its directory and the name, with a slash between them unless the
path ends in one. -/
theorem bytes_entry {path : Path} (h : name.IsStep) :
    (path.entry name).bytes = path.bytes ++ name ∨
      (path.entry name).bytes = path.bytes ++ slash :: name := by
  rw [entry, join, if_neg (by simp [isAbsolute_mk_of_isStep h])]
  split_ifs
  · exact .inl rfl
  · exact .inr rfl

/-- The path to an entry is longer than that of its directory. -/
theorem length_lt_entry {path : Path} (h : name.IsStep) :
    path.bytes.length < (path.entry name).bytes.length := by
  have pos : 0 < name.length := List.length_pos_iff.2 h.ne_nil
  rcases bytes_entry h with written | written
  · rw [written, List.length_append]
    omega
  · rw [written, List.length_append, List.length_cons]
    omega

/-- A slash separates the steps before it from those after it. -/
theorem steps_append_slash_cons (front rest : Bytes) :
    (Path.mk (front ++ slash :: rest)).steps = (Path.mk front).steps ++ (Path.mk rest).steps := by
  simp [steps, List.splitOn_append_cons_self]

/-- A slash at the end is a step that stays. -/
theorem steps_append_slash (written : Bytes) :
    (Path.mk (written ++ [slash])).steps = (Path.mk written).steps ++ [.empty] :=
  steps_append_slash_cons written []

/-- The steps to an entry are those to its directory, without a trailing slash, and one step down. -/
theorem exists_steps_entry {path : Path} (hname : name.IsStep) (notEmpty : path.bytes ≠ []) :
    ∃ front, (path.entry name).steps = front ++ [.down name] ∧
      (path.steps = front ∨ path.steps = front ++ [.empty]) := by
  -- Whatever stands before the slash is cut into steps by itself, and the name is one step.
  have cut : ∀ front : Bytes, (Path.mk (front ++ slash :: name)).steps =
      (Path.mk front).steps ++ [.down name] := by
    intro front
    rw [steps_append_slash_cons]
    simp [steps, List.splitOn_eq_singleton hname.2, hname.1]
  rw [entry, join, if_neg (by simp [isAbsolute_mk_of_isStep hname])]
  by_cases slashed : path.bytes.getLast? = some slash
  · obtain ⟨front, written⟩ := List.getLast?_eq_some_iff.1 slashed
    have trailing : path.steps = (Path.mk front).steps ++ [.empty] := by
      rw [← steps_append_slash, steps, steps, written]
    refine ⟨(Path.mk front).steps, ?_, .inr trailing⟩
    rw [if_pos (.inr slashed), written, List.append_assoc]
    exact cut front
  · rw [if_neg (by simp [notEmpty, slashed])]
    exact ⟨path.steps, cut path.bytes, .inl rfl⟩

/-- A path does not begin with the longer one to an entry of its directory. -/
theorem startsWith_entry {path : Path} (hname : name.IsStep) (notEmpty : path.bytes ≠ []) :
    path.startsWith (path.entry name) = false := by
  obtain ⟨front, toEntry, toPath⟩ := exists_steps_entry hname notEmpty
  have moves : path.steps.filter Step.moves = front.filter Step.moves := by
    rcases toPath with same | slashed
    · rw [same]
    · rw [slashed, List.filter_append]
      exact List.append_nil _
  rw [startsWith, toEntry, moves, List.filter_append, Bool.and_eq_false_iff, ← Bool.not_eq_true,
    ← Bool.not_eq_true, List.isPrefixOf_iff_prefix]
  refine .inr fun begins => ?_
  have down : [Step.down name].filter Step.moves = [.down name] := rfl
  have longer := begins.length_le
  rw [List.length_append, down, List.length_singleton] at longer
  omega

/-- A path that continues another one may be continued before or after. -/
theorem join_append {path : Path} {next more : Bytes} (notEmpty : next ≠ []) :
    path.join ⟨next ++ more⟩ = ⟨(path.join ⟨next⟩).bytes ++ more⟩ := by
  obtain ⟨first, rest, rfl⟩ := List.exists_cons_of_ne_nil notEmpty
  have same : (Path.mk (first :: rest ++ more)).isAbsolute =
      (Path.mk (first :: rest)).isAbsolute := rfl
  unfold join
  rw [same]
  split_ifs
  · rfl
  · simp
  · simp

/-! ## How a location is read back -/

@[simp]
theorem steps_ofLocation_nil : (ofLocation []).steps = [.empty, .empty] := by
  rfl

/-- A step that moves is read back from what is written for it. -/
theorem toBytes_of_moves {step : Step} (moves : step.moves = true)
    (isStep : ∀ name, step = .down name → name.IsStep) :
    Step.ofBytes step.toBytes = step ∧ slash ∉ step.toBytes := by
  cases step with
  | empty => cases moves
  | here => cases moves
  | up => decide
  | down name => exact isStep name rfl

/-- The steps of a path that is written from steps that move. -/
theorem steps_ofSteps (absolute : Bool) {written : List Step}
    (areSteps : ∀ name, .down name ∈ written → Name.IsStep name)
    (moves : ∀ step ∈ written, step.moves = true) (notNil : written ≠ []) :
    (ofSteps absolute written).steps = if absolute then .empty :: written else written := by
  have back := fun step mem => toBytes_of_moves (moves step mem) fun name down =>
    areSteps name (down ▸ mem)
  have noSlash : ∀ piece ∈ written.map Step.toBytes, slash ∉ piece := by
    intro piece mem
    obtain ⟨step, isWritten, rfl⟩ := List.mem_map.1 mem
    exact (back step isWritten).2
  have readBack : (written.map Step.toBytes).map Step.ofBytes = written := by
    calc
      (written.map Step.toBytes).map Step.ofBytes
        = written.map fun step => Step.ofBytes step.toBytes := List.map_map
      _ = written.map id := List.map_congr_left fun step mem => (back step mem).1
      _ = written := List.map_id written
  have pieces : ([slash].intercalate (written.map Step.toBytes)).splitOn slash =
      written.map Step.toBytes :=
    List.splitOn_intercalate slash noSlash (by simpa using notNil)
  cases absolute with
  | true =>
    have cut : (ofSteps true written).bytes.splitOn slash = [] :: written.map Step.toBytes := by
      rw [ofSteps, if_pos rfl, ← List.nil_append (slash :: _),
        List.splitOn_append_cons_self_of_not_mem List.not_mem_nil, pieces]
    rw [steps, cut, List.map_cons, readBack]
    rfl
  | false =>
    have bytes : (ofSteps false written).bytes = [slash].intercalate (written.map Step.toBytes) := by
      rw [ofSteps, if_neg (by simp), if_neg notNil]
    rw [steps, bytes, pieces, readBack]
    rfl

theorem steps_ofLocation (h : ∀ name ∈ loc, Name.IsStep name) (below : loc ≠ []) :
    (ofLocation loc).steps = .empty :: loc.reverse.map .down := by
  refine steps_ofSteps true (fun name mem => h name (by simpa using mem)) (fun step mem => ?_)
    (by simpa using below)
  obtain ⟨name, -, rfl⟩ := List.mem_map.1 mem
  rfl

@[simp]
theorem moves_ofLocation (h : ∀ name ∈ loc, Name.IsStep name) :
    (ofLocation loc).steps.filter Step.moves = loc.reverse.map .down := by
  by_cases below : loc = []
  · subst below
    rfl
  · have kept : (loc.reverse.map Step.down).filter Step.moves = loc.reverse.map Step.down := by
      rw [List.filter_eq_self]
      simp [Step.moves]
    rw [steps_ofLocation h below, List.filter_cons_of_neg (by simp [Step.moves]), kept]

@[simp]
theorem location_ofLocation (h : ∀ name ∈ loc, Name.IsStep name) :
    (ofLocation loc).location = loc := by
  have names : (loc.reverse.map Step.down).filterMap Step.name? = loc.reverse := by
    rw [List.filterMap_map]
    exact List.filterMap_some
  by_cases below : loc = []
  · subst below
    rfl
  · rw [location, steps_ofLocation h below, List.filterMap_cons_none rfl, names,
      List.reverse_reverse]

/-- One location's path begins with another's when the one lies at or below the other. -/
theorem startsWith_ofLocation {other : Location} (hloc : ∀ name ∈ loc, Name.IsStep name)
    (hother : ∀ name ∈ other, Name.IsStep name) :
    (ofLocation loc).startsWith (ofLocation other) = true ↔ other <:+ loc := by
  have inj : Function.Injective Step.down := fun a b same => Step.down.inj same
  rw [startsWith, moves_ofLocation hloc, moves_ofLocation hother, isAbsolute_ofLocation,
    isAbsolute_ofLocation, beq_self_eq_true, Bool.true_and, List.isPrefixOf_iff_prefix,
    List.prefix_map_iff_of_injective inj, List.reverse_prefix]

/-! ## Normal paths spell locations -/

theorem notMem_of_mem_splitOn (written piece : Bytes) (h : piece ∈ written.splitOn slash) :
    slash ∉ piece := by
  -- A slash starts a new piece, and any other byte goes to the front of the first one.
  induction written generalizing piece with
  | nil => simp_all
  | cons byte rest ih =>
    rw [List.splitOn_cons_eq_if_modifyHead] at h
    split at h
    · rcases List.mem_cons.1 h with rfl | h
      · exact List.not_mem_nil
      · exact ih piece h
    · rename_i other
      have notNil := List.splitOn_ne_nil slash rest
      cases split : rest.splitOn slash with
      | nil => exact absurd split notNil
      | cons first later =>
        rw [split] at h ih
        simp only [List.modifyHead_cons, List.mem_cons] at h
        rcases h with rfl | h
        · rw [List.mem_cons, not_or]
          exact ⟨fun same => other (by simp [same]), ih first (by simp)⟩
        · exact ih piece (by simp [h])

/-- A step down is written as the name that it leads to. -/
theorem eq_of_ofBytes {piece : Bytes} (read : Step.ofBytes piece = .down name) : piece = name := by
  unfold Step.ofBytes at read
  split_ifs at read
  exact Step.down.inj read

/-- The names that the steps of a path lead down to are those that stand between its slashes. -/
theorem isStep_of_mem_steps {path : Path} (h : Step.down name ∈ path.steps) : name.IsStep := by
  rw [steps, List.mem_map] at h
  obtain ⟨piece, mem, read⟩ := h
  obtain rfl := eq_of_ofBytes read
  exact ⟨read, notMem_of_mem_splitOn _ _ mem⟩

private theorem exists_mem_splitOn {byte : UInt8} {written : Bytes} (h : byte ∈ written)
    (notSlash : byte ≠ slash) : ∃ piece ∈ written.splitOn slash, byte ∈ piece := by
  induction written with
  | nil => cases h
  | cons first rest ih =>
    rw [List.splitOn_cons_eq_if_modifyHead]
    split
    · rename_i isSlash
      rcases List.mem_cons.1 h with rfl | h
      · exact absurd (by simpa using isSlash) notSlash
      · obtain ⟨piece, mem, holds⟩ := ih h
        exact ⟨piece, List.mem_cons_of_mem _ mem, holds⟩
    · have notNil := List.splitOn_ne_nil slash rest
      cases split : rest.splitOn slash with
      | nil => exact absurd split notNil
      | cons piece later =>
        rw [split] at ih
        rw [List.modifyHead_cons]
        rcases List.mem_cons.1 h with rfl | h
        · exact ⟨_, List.mem_cons_self, List.mem_cons_self⟩
        · obtain ⟨other, mem, holds⟩ := ih h
          rcases List.mem_cons.1 mem with rfl | mem
          · exact ⟨_, List.mem_cons_self, List.mem_cons_of_mem _ holds⟩
          · exact ⟨other, List.mem_cons_of_mem _ mem, holds⟩

/-- Every byte of a path that is no slash and no dot belongs to a name. -/
theorem exists_of_mem_bytes {path : Path} {byte : UInt8} (h : byte ∈ path.bytes)
    (notSlash : byte ≠ slash) (notDot : byte ≠ dot) :
    ∃ name, Step.down name ∈ path.steps ∧ byte ∈ name := by
  obtain ⟨piece, mem, holds⟩ := exists_mem_splitOn h notSlash
  have isName : Step.ofBytes piece = .down piece := by
    unfold Step.ofBytes
    rw [if_neg, if_neg, if_neg]
    all_goals
      rintro rfl
      simp [notDot] at holds
  exact ⟨piece, List.mem_map.2 ⟨piece, mem, isName⟩, holds⟩

/-- Where a step leads from a location by what is written alone. -/
def advance (loc : Location) : Step → Location
  | .empty | .here => loc
  | .up => loc.tail
  | .down name => name :: loc

/-- Where the steps of an absolute path arrive by what is written alone. -/
def arrival (path : Path) : Location :=
  path.steps.foldl advance []

variable {path : Path} {written : List Step}

/-- The path to an entry arrives at it, one step behind where that of its directory arrives. -/
theorem arrival_entry {path : Path} (hname : name.IsStep) (notEmpty : path.bytes ≠ []) :
    (path.entry name).arrival = name :: path.arrival := by
  obtain ⟨front, toEntry, toPath⟩ := exists_steps_entry hname notEmpty
  have same : path.arrival = front.foldl advance [] := by
    rcases toPath with written | slashed
    · rw [arrival, written]
    · rw [arrival, slashed, List.foldl_append]
      rfl
  rw [same, arrival, toEntry, List.foldl_append]
  rfl

/-- A slash at the end does not matter. -/
theorem arrival_append_slash (written : Bytes) :
    (Path.mk (written ++ [slash])).arrival = (Path.mk written).arrival := by
  rw [arrival, steps_append_slash, List.foldl_append]
  rfl


/-- Below the root the stack of a normal form is a location. -/
private theorem pushStep_map_down (loc : Location) (step : Step) :
    pushStep true (loc.map .down) step = (advance loc step).map .down := by
  cases step with
  | empty => rfl
  | here => rfl
  | down name => rfl
  | up =>
    cases loc with
    | nil => rfl
    | cons name parent => rfl

private theorem foldl_pushStep (loc : Location) (written : List Step) :
    written.foldl (pushStep true) (loc.map .down) = (written.foldl advance loc).map .down := by
  induction written generalizing loc with
  | nil => rfl
  | cons step rest ih => rw [List.foldl_cons, pushStep_map_down, ih, List.foldl_cons]

/-- The normal form of an absolute path spells the location at which its steps arrive. -/
theorem normalize_eq_ofLocation (absolute : path.isAbsolute = true) :
    path.normalize = ofLocation path.arrival := by
  have stack : path.steps.foldl (pushStep true) [] = path.arrival.map .down :=
    foldl_pushStep [] path.steps
  rw [normalize, absolute, reduceSteps, stack, ofLocation, List.map_reverse]

private theorem mem_foldl_advance (h : name ∈ written.foldl advance loc) :
    name ∈ loc ∨ .down name ∈ written := by
  induction written generalizing loc with
  | nil => exact .inl h
  | cons step rest ih =>
    rcases ih h with before | later
    · cases step with
      | empty => exact .inl before
      | here => exact .inl before
      | up => exact .inl (List.mem_of_mem_tail before)
      | down first =>
        rcases List.mem_cons.1 before with rfl | before
        · exact .inr List.mem_cons_self
        · exact .inl before
    · exact .inr (List.mem_cons_of_mem _ later)

theorem isStep_of_mem_arrival (h : name ∈ path.arrival) : name.IsStep := by
  rcases mem_foldl_advance h with none | down
  · cases none
  · exact isStep_of_mem_steps down

/-- The normal form of an absolute path spells a location. -/
theorem exists_normalize_eq_ofLocation {path : Path} (absolute : path.isAbsolute = true) :
    ∃ loc : Location, (∀ name ∈ loc, Name.IsStep name) ∧ path.normalize = ofLocation loc :=
  ⟨path.arrival, fun _ mem => isStep_of_mem_arrival mem, normalize_eq_ofLocation absolute⟩

/-- A path that is absolute and its own normal form spells its location. -/
theorem eq_ofLocation_location {path : Path} (absolute : path.isAbsolute = true)
    (normal : path.normalize = path) :
    (∀ name ∈ path.location, Name.IsStep name) ∧ path = ofLocation path.location := by
  obtain ⟨loc, areSteps, spelled⟩ := exists_normalize_eq_ofLocation absolute
  rw [normal] at spelled
  rw [spelled, location_ofLocation areSteps]
  exact ⟨areSteps, rfl⟩

/-- What continues an absolute path is absolute. -/
theorem isAbsolute_join {path : Path} (absolute : path.isAbsolute = true) (next : Path) :
    (path.join next).isAbsolute = true := by
  obtain ⟨bytes⟩ := path
  cases bytes with
  | nil => cases absolute
  | cons first rest =>
    unfold join
    split_ifs with starts
    · exact starts
    · exact absolute
    · exact absolute

end Path

end LineShell
