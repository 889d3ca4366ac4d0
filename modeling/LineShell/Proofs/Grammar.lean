import LineShell.Proofs.Flags

/-!
# The grammar of the command line

The arguments of the command line are groups: each is a flag in one of its two spellings, with the next
argument as its value if the flag takes one. A value is any text at all, so that a group can be told
only by what stands before it. Arguments are read group by group (`parse_groups`), and any list of
arguments is a list of groups up to an argument that begins none (`exists_groups`). So the lists that are
accepted are those that are made of groups, and the flags that are set can be read off these.

The main result is `readsByGroups_parse`.
-/

namespace LineShell

namespace Flag

variable {flag : Flag} {argument : String}

/-- An argument spells a flag. -/
def IsSpelling (flag : Flag) (argument : String) : Prop :=
  argument = flag.short ∨ argument = flag.long

/-- No two flags share a spelling. -/
theorem find?_eq_some_iff : find? argument = some flag ↔ flag.IsSpelling argument := by
  constructor
  · intro found
    have spells := List.find?_some found
    rwa [Bool.or_eq_true, decide_eq_true_iff, decide_eq_true_iff] at spells
  · rintro (rfl | rfl)
    · cases flag <;> decide
    · cases flag <;> decide

theorem find?_eq_none_iff : find? argument = none ↔ ∀ flag : Flag, ¬ flag.IsSpelling argument := by
  simp only [← find?_eq_some_iff, Option.eq_none_iff_forall_ne_some, ne_eq]

example : all.map (fun flag => (flag.short, flag.long, flag.takesValue)) =
    [("-c", "--config", true), ("-d", "--debug", false), ("-h", "--help", false),
      ("-q", "--quiet", false), ("-v", "--version", false)] := by
  decide

end Flag

/-- A flag on the command line with what belongs to it. -/
structure FlagGroup where
  /-- The flag. -/
  flag : Flag
  /-- How it is written. -/
  spelling : String
  /-- Its value, if it takes one. -/
  value : Option String
  /-- The flag is spelled in one of its two ways. -/
  spells : flag.IsSpelling spelling
  /-- There is a value exactly if the flag takes one. -/
  complete : value.isSome = flag.takesValue

namespace FlagGroup

/-- The arguments that a group is made of. -/
def arguments (group : FlagGroup) : List String :=
  group.spelling :: group.value.toList

end FlagGroup

namespace Flags

variable {flags later : Flags} {argument : String} {arguments rest : List String}
  {group : FlagGroup} {groups : List FlagGroup} {error : FlagError}

/-- The arguments that groups are made of. -/
def spelled (groups : List FlagGroup) : List String :=
  groups.flatMap FlagGroup.arguments

/-- The flags after one more group. -/
def setGroup (flags : Flags) (group : FlagGroup) : Flags :=
  flags.set group.flag (group.value.getD "")

/-- The flags after groups. -/
def setGroups (flags : Flags) (groups : List FlagGroup) : Flags :=
  groups.foldl setGroup flags

/-- An argument that begins no group, and what is wrong with it. -/
inductive Wrong : List String → FlagError → Prop
  /-- It spells no flag. -/
  | unknown {argument : String} {rest : List String} :
    (∀ flag : Flag, ¬ flag.IsSpelling argument) → Wrong (argument :: rest) (.unknown argument)
  /-- It spells a flag that takes a value, and there is none. -/
  | missingValue {flag : Flag} {argument : String} :
    flag.takesValue = true → flag.IsSpelling argument → Wrong [argument] (.missingValue argument)

/-! ## Groups -/

/-- One group is read and sets its flag. -/
theorem parse_group (flags : Flags) (group : FlagGroup) (rest : List String) :
    parse flags (group.arguments ++ rest) = parse (flags.setGroup group) rest := by
  obtain ⟨flag, spelling, value, spells, complete⟩ := group
  have known := Flag.find?_eq_some_iff.2 spells
  cases value with
  | none =>
    rw [FlagGroup.arguments, Option.toList_none, List.singleton_append, parse, known]
    simp [← complete, setGroup]
  | some value =>
    -- The value is not looked at, whatever it spells.
    rw [FlagGroup.arguments, Option.toList_some, List.cons_append, List.singleton_append, parse,
      known]
    simp [← complete, setGroup]

/-- Groups are read one after the other. -/
theorem parse_groups (flags : Flags) (groups : List FlagGroup) (rest : List String) :
    parse flags (spelled groups ++ rest) = parse (flags.setGroups groups) rest := by
  induction groups generalizing flags with
  | nil => rfl
  | cons group groups ih =>
    rw [spelled, List.flatMap_cons, List.append_assoc, parse_group, ← spelled, ih]
    rfl

theorem parse_spelled (flags : Flags) (groups : List FlagGroup) :
    parse flags (spelled groups) = (flags.setGroups groups, none) := by
  have read := parse_groups flags groups []
  rwa [List.append_nil] at read

theorem parse_wrong (wrong : Wrong rest error) (flags : Flags) :
    parse flags rest = (flags, some error) := by
  cases wrong with
  | unknown none => rw [parse, Flag.find?_eq_none_iff.2 none]
  | missingValue takes spells =>
    rw [parse, Flag.find?_eq_some_iff.2 spells]
    simp [takes]

/-- Any arguments are groups up to one that is wrong, or up to the end. -/
theorem exists_groups (arguments : List String) :
    ∃ groups rest, arguments = spelled groups ++ rest ∧ (rest = [] ∨ ∃ error, Wrong rest error) := by
  fun_induction parse {} arguments with
  | case1 => exact ⟨[], [], rfl, .inl rfl⟩
  | case2 flags argument rest unknown =>
    exact ⟨[], _, rfl, .inr ⟨_, .unknown (Flag.find?_eq_none_iff.1 unknown)⟩⟩
  | case3 flags argument flag known takes =>
    exact ⟨[], _, rfl, .inr ⟨_, .missingValue takes (Flag.find?_eq_some_iff.1 known)⟩⟩
  | case4 flags argument flag known takes value rest ih =>
    obtain ⟨groups, stop, rfl, stops⟩ := ih
    let group : FlagGroup :=
      ⟨flag, argument, some value, Flag.find?_eq_some_iff.1 known, takes.symm⟩
    exact ⟨group :: groups, stop, rfl, stops⟩
  | case5 flags argument rest flag known takes ih =>
    obtain ⟨groups, stop, rfl, stops⟩ := ih
    let group : FlagGroup :=
      ⟨flag, argument, none, Flag.find?_eq_some_iff.1 known, by simpa using takes⟩
    exact ⟨group :: groups, stop, rfl, stops⟩

/-- No group begins with an argument that is wrong. -/
theorem Wrong.ne_group (wrong : Wrong rest error) (group : FlagGroup) (more : List String) :
    rest ≠ group.arguments ++ more := by
  obtain ⟨flag, spelling, value, spells, complete⟩ := group
  intro begins
  cases wrong with
  | unknown none =>
    obtain ⟨rfl, -⟩ := List.cons.inj begins
    exact none flag spells
  | @missingValue other argument takes spelled =>
    obtain ⟨rfl, alone⟩ := List.cons.inj begins
    -- Only one flag has this spelling, so that it is this flag that lacks its value.
    obtain rfl : other = flag := by
      rw [← Flag.find?_eq_some_iff] at spelled spells
      exact Option.some.inj (spelled.symm.trans spells)
    cases value with
    | none => simp [takes] at complete
    | some value => cases alone

/-! ## What groups set -/

/-- Setting a flag changes its own value and no other one. -/
theorem value?_set (flags : Flags) (flag other : Flag) (value : String) :
    (flags.set flag value).value? other =
      if flag = other then some (if flag.takesValue then value else "true")
      else flags.value? other := by
  cases flag <;> cases other <;> rfl

/-- The flags that are set after groups are those before and those of the groups. -/
theorem isSome_value?_setGroups (flags : Flags) (groups : List FlagGroup) (flag : Flag) :
    ((flags.setGroups groups).value? flag).isSome = true ↔
      (flags.value? flag).isSome = true ∨ ∃ group ∈ groups, group.flag = flag := by
  induction groups generalizing flags with
  | nil => simp [setGroups]
  | cons group groups ih =>
    rw [setGroups, List.foldl_cons, ← setGroups, ih, setGroup, value?_set,
      List.exists_mem_cons_iff]
    by_cases same : group.flag = flag
    · simp [same]
    · simp [same]

theorem config_setGroup (flags : Flags) (group : FlagGroup) :
    (flags.setGroup group).config = group.value.or flags.config := by
  obtain ⟨flag, spelling, value, spells, complete⟩ := group
  cases value with
  | none =>
    -- A group without a value is none of the flag that takes one.
    cases flag with
    | config => cases complete
    | debug | help | quiet | version => rfl
  | some text =>
    obtain rfl : flag = .config := by simpa [Flag.takesValue] using complete
    rfl

/-- The last value is the one that holds. -/
theorem config_setGroups (flags : Flags) (groups : List FlagGroup) :
    (flags.setGroups groups).config = (groups.filterMap FlagGroup.value).getLast?.or flags.config := by
  induction groups generalizing flags with
  | nil => rfl
  | cons group groups ih =>
    rw [setGroups, List.foldl_cons, ← setGroups, ih, config_setGroup]
    cases value : group.value with
    | none => rw [List.filterMap_cons_none value, Option.none_or]
    | some text =>
      rw [List.filterMap_cons_some value, List.getLast?_cons]
      cases (groups.filterMap FlagGroup.value).getLast? with
      | none => rfl
      | some last => rfl

/-! ## The grammar -/

/-- Arguments are read group by group. -/
structure ReadsByGroups (flags : Flags) (arguments : List String) : Prop where
  /-- They are accepted exactly if they are made of groups. -/
  accepted_iff : (parse flags arguments).2 = none ↔ ∃ groups, arguments = spelled groups
  /-- Then a flag is set if it was set before or if it is the flag of a group. -/
  isSet_iff : ∀ groups, arguments = spelled groups → ∀ flag,
    ((parse flags arguments).1.value? flag).isSome = true ↔
      (flags.value? flag).isSome = true ∨ ∃ group ∈ groups, group.flag = flag
  /-- And the value is that of the last group with one. -/
  config_eq : ∀ groups, arguments = spelled groups →
    (parse flags arguments).1.config = (groups.filterMap FlagGroup.value).getLast?.or flags.config
  /-- They are refused for the first argument that begins no group, with the flags set by the groups
  before it. -/
  refused_iff : ∀ later error, parse flags arguments = (later, some error) ↔
    ∃ groups rest, arguments = spelled groups ++ rest ∧
      (∀ (group : FlagGroup) more, rest ≠ group.arguments ++ more) ∧ Wrong rest error ∧
      parse flags (spelled groups) = (later, none)
  /-- Arguments that are accepted can be read before others or together with them. -/
  goesOn : (parse flags arguments).2 = none → ∀ more,
    parse flags (arguments ++ more) = parse (parse flags arguments).1 more

/-- Whatever flags are set before, arguments are read group by group. -/
theorem readsByGroups_parse (flags : Flags) (arguments : List String) :
    ReadsByGroups flags arguments where
  accepted_iff := by
    constructor
    · intro accepted
      obtain ⟨groups, rest, rfl, rfl | ⟨error, wrong⟩⟩ := exists_groups arguments
      · exact ⟨groups, List.append_nil _⟩
      · rw [parse_groups, parse_wrong wrong] at accepted
        cases accepted
    · rintro ⟨groups, rfl⟩
      rw [parse_spelled]
  isSet_iff := by
    rintro groups rfl flag
    rw [parse_spelled, isSome_value?_setGroups]
  config_eq := by
    rintro groups rfl
    rw [parse_spelled, config_setGroups]
  refused_iff later error := by
    constructor
    · intro refused
      obtain ⟨groups, rest, rfl, rfl | ⟨other, wrong⟩⟩ := exists_groups arguments
      · rw [List.append_nil, parse_spelled] at refused
        cases refused
      · rw [parse_groups, parse_wrong wrong] at refused
        cases refused
        exact ⟨groups, rest, rfl, wrong.ne_group, wrong, parse_spelled flags groups⟩
    · rintro ⟨groups, rest, rfl, -, wrong, before⟩
      rw [parse_spelled, Prod.mk.injEq] at before
      rw [parse_groups, parse_wrong wrong, before.1]
  goesOn accepted more :=
    parse_append (Prod.ext rfl accepted) more

end Flags

end LineShell
