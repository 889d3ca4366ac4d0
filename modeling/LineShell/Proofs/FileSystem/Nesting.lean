import LineShell.Proofs.FileSystem.Replay

/-!
# How deep a copy nests

The copy of a tree calls itself for each directory that it meets, and it may meet directories that it
has just made. What ends it is the path of the destination: every nested call has a longer one
(`length_lt_of_mem_levelCalls`), and a path that is too long can be neither found nor made
(`copyLevels_of_checkPath`). So the bound on the levels in the definition of the copy is out of reach:

- `copyLevels_eq_copyTree`: more levels make no difference;
- `copyTree_eq_copyLevel`: the copy is one level of itself, without any bound;
- `copyTree_terminates`: what the nested calls return decides what a call returns, and no more than
  4096 calls are ever under way.
-/

namespace LineShell

/-- A call of the copy of a tree. -/
structure CopyCall where
  /-- The files that it starts from. -/
  files : FileSystem
  /-- The tree to be copied. -/
  source : Path
  /-- Where it is to be copied to. -/
  destination : Path

/-- What is still to be called when a copy has ended: nothing, if it has failed. -/
def Copied.callsAfter (first : Copied) (calls : FileSystem → List CopyCall) : List CopyCall :=
  match first.result with
  | .ok _ => calls first.files
  | .error _ => []

namespace FileSystem

/-- The calls that are made to copy the named entries of one directory to another, if calls return
what `descend` says. -/
def entryCalls (descend : FileSystem → Path → Path → Copied) (source destination : Path) :
    List Name → FileSystem → List CopyCall
  | [], _ => []
  | name :: rest, fs =>
    let item := source.entry name
    let target := destination.entry name
    if fs.isDirectory item then
      ⟨fs, item, target⟩ ::
        (descend fs item target).callsAfter (entryCalls descend source destination rest)
    else (fs.copyOver item target).callsAfter (entryCalls descend source destination rest)

/-- The calls that are made to copy one level of a tree, if calls return what `descend` says. -/
def levelCalls (descend : FileSystem → Path → Path → Copied) (fs : FileSystem)
    (source destination : Path) : List CopyCall :=
  (fs.makeTarget destination).callsAfter fun made =>
    match made.list source with
    | .ok names => entryCalls descend source destination names made
    | .error _ => []

end FileSystem

namespace CopyCall

/-- What a call returns. -/
def outcome (call : CopyCall) : Copied :=
  call.files.copyTree call.source call.destination

/-- The calls that a call makes itself, in order. -/
def nested (call : CopyCall) : List CopyCall :=
  call.files.levelCalls FileSystem.copyTree call.source call.destination

/-- One call makes another one. -/
def Makes (outer inner : CopyCall) : Prop :=
  inner ∈ outer.nested

end CopyCall

namespace FileSystem

variable {fs later : FileSystem} {source destination path : Path} {name : Name} {names : List Name}
  {descend other : FileSystem → Path → Path → Copied} {call inner : CopyCall} {fault : Fault}
  {depth : Nat}

/-! ## Only the calls that are made matter -/

theorem mem_callsAfter {first : Copied} {calls : FileSystem → List CopyCall} :
    call ∈ first.callsAfter calls ↔
      (∃ count, first.result = .ok count) ∧ call ∈ calls first.files := by
  unfold Copied.callsAfter
  cases first.result <;> simp

/-- The copy of some entries depends on nothing but what the calls that it makes return. -/
theorem copyEntries_congr
    (agree : ∀ call ∈ entryCalls descend source destination names fs,
      other call.files call.source call.destination =
        descend call.files call.source call.destination) :
    copyEntries other source destination names fs =
      copyEntries descend source destination names fs := by
  induction names generalizing fs with
  | nil => rfl
  | cons name rest ih =>
    rw [entryCalls] at agree
    rw [copyEntries, copyEntries]
    split_ifs at agree ⊢ with isDir
    · -- The first call returns the same, and the others follow it if it succeeds.
      have same : other fs (source.entry name) (destination.entry name) =
          descend fs (source.entry name) (destination.entry name) :=
        agree _ List.mem_cons_self
      rw [same]
      exact Copied.andThen_congr fun count copied => ih fun call mem =>
        agree call (List.mem_cons_of_mem _ (mem_callsAfter.2 ⟨⟨count, copied⟩, mem⟩))
    · exact Copied.andThen_congr fun count copied => ih fun call mem =>
        agree call (mem_callsAfter.2 ⟨⟨count, copied⟩, mem⟩)

/-- The copy of one level depends on nothing but what the calls that it makes return. -/
theorem copyLevel_congr
    (agree : ∀ call ∈ fs.levelCalls descend source destination,
      other call.files call.source call.destination =
        descend call.files call.source call.destination) :
    fs.copyLevel other source destination = fs.copyLevel descend source destination := by
  refine Copied.andThen_congr fun count made => ?_
  rw [fill, fill]
  cases listed : (fs.makeTarget destination).files.list source with
  | error fault => rfl
  | ok names =>
    refine copyEntries_congr fun call mem => agree call (mem_callsAfter.2 ⟨⟨count, made⟩, ?_⟩)
    simpa only [listed] using mem

/-! ## The paths of nested calls -/

theorem find_of_checkPath (refused : checkPath path = .error fault) (last : LastStep) :
    fs.find path last = .error fault := by
  simp [find, findFrom, locateFrom, refused, bind, Except.bind]

/-- Nothing can be copied to a path that cannot be looked up. -/
theorem makeTarget_of_checkPath (refused : checkPath path = .error fault) :
    fs.makeTarget path = ⟨fs, [], .error fault⟩ := by
  have absent : fs.isPresent path = false := by
    rw [isPresent, find_of_checkPath refused]
    rfl
  have notMade : fs.makeDirectory path = .error fault := by
    simp [makeDirectory, refused, bind, Except.bind]
  simp [makeTarget, absent, notMade]

theorem copyLevel_of_checkPath (refused : checkPath destination = .error fault) :
    fs.copyLevel descend source destination = ⟨fs, [], .error fault⟩ := by
  rw [copyLevel, makeTarget_of_checkPath refused, Copied.andThen_of_error rfl]

theorem copyLevels_of_checkPath (refused : checkPath destination = .error fault) :
    fs.copyLevels depth source destination = ⟨fs, [], .error fault⟩ := by
  cases depth with
  | zero => exact copyLevel_of_checkPath refused
  | succ depth => exact copyLevel_of_checkPath refused

theorem exists_of_mem_entryCalls (mem : call ∈ entryCalls descend source destination names fs) :
    ∃ name ∈ names, call.destination = destination.entry name := by
  induction names generalizing fs with
  | nil => cases mem
  | cons name rest ih =>
    have later : ∀ {fs}, call ∈ entryCalls descend source destination rest fs →
        ∃ other ∈ name :: rest, call.destination = destination.entry other := by
      intro fs mem
      obtain ⟨other, listed, same⟩ := ih mem
      exact ⟨other, List.mem_cons_of_mem _ listed, same⟩
    rw [entryCalls] at mem
    split_ifs at mem
    · rcases List.mem_cons.1 mem with rfl | mem
      · exact ⟨name, List.mem_cons_self, rfl⟩
      · exact later (mem_callsAfter.1 mem).2
    · exact later (mem_callsAfter.1 mem).2

/-- A call makes other calls only if the path of its destination can be looked up. Each of them has an
entry of that destination for its own. -/
theorem exists_of_mem_levelCalls (mem : call ∈ fs.levelCalls descend source destination) :
    checkPath destination = .ok () ∧
      ∃ name : Name, name.isValid = true ∧ call.destination = destination.entry name := by
  obtain ⟨⟨count, made⟩, mem⟩ := mem_callsAfter.1 mem
  constructor
  · cases checked : checkPath destination with
    | ok => rfl
    | error fault =>
      rw [makeTarget_of_checkPath checked] at made
      cases made
  · cases listed : (fs.makeTarget destination).files.list source with
    | error fault => simp [listed] at mem
    | ok names =>
      simp only [listed] at mem
      obtain ⟨name, isListed, same⟩ := exists_of_mem_entryCalls mem
      obtain ⟨loc, -, rfl⟩ := list_eq_ok_iff.1 listed
      obtain ⟨found, stands⟩ := Option.ne_none_iff_exists'.1 (mem_names_iff.1 isListed)
      exact ⟨name, (isPlace_of_entry stands).1, same⟩

/-- A nested call has a longer destination. -/
theorem length_lt_of_mem_levelCalls (mem : call ∈ fs.levelCalls descend source destination) :
    destination.bytes.length < call.destination.bytes.length := by
  obtain ⟨-, name, valid, same⟩ := exists_of_mem_levelCalls mem
  rw [same]
  exact Path.length_lt_entry (Name.isStep_of_isValid valid)

/-- No entry of a directory at the limit can be looked up by its path. -/
theorem checkPath_entry_of_le (checked : checkPath path = .ok ()) (valid : name.isValid = true)
    (atLimit : maxPathLength ≤ path.bytes.length) :
    checkPath (path.entry name) = .error (.refused .nameTooLong) := by
  have longer : path.bytes.length < (path.entry name).bytes.length :=
    Path.length_lt_entry (Name.isStep_of_isValid valid)
  rw [checkPath_entry checked valid, if_pos (Nat.lt_of_le_of_lt atLimit longer)]

/-! ## The bound is out of reach -/

/-- One level more makes no difference, if the levels reach to the limit of paths. -/
private theorem copyLevels_succ (enough : maxPathLength ≤ destination.bytes.length + depth) :
    fs.copyLevels (depth + 1) source destination = fs.copyLevels depth source destination := by
  -- With each level that is left there is one byte less between the path and the limit.
  induction depth generalizing fs source destination with
  | zero =>
    refine copyLevel_congr fun call mem => ?_
    obtain ⟨checked, name, valid, same⟩ := exists_of_mem_levelCalls mem
    exact copyLevels_of_checkPath (same ▸ checkPath_entry_of_le checked valid enough)
  | succ depth ih =>
    refine copyLevel_congr fun call mem => ih ?_
    have longer := length_lt_of_mem_levelCalls mem
    omega

/-- However many levels a copy is allowed, it does the same if they reach to the limit of paths. -/
theorem copyLevels_eq_copyTree (enough : maxPathLength ≤ destination.bytes.length + depth) :
    fs.copyLevels depth source destination = fs.copyTree source destination := by
  have least : maxPathLength - destination.bytes.length ≤ depth := by omega
  obtain ⟨more, rfl⟩ := Nat.exists_eq_add_of_le least
  induction more with
  | zero => rfl
  | succ more ih =>
    have reaches : maxPathLength ≤
        destination.bytes.length + (maxPathLength - destination.bytes.length + more) := by omega
    rw [Nat.add_succ, copyLevels_succ reaches, ih reaches (Nat.le_add_right _ more)]

/-- The copy of a tree is one level of itself. -/
theorem copyTree_eq_copyLevel (fs : FileSystem) (source destination : Path) :
    fs.copyTree source destination = fs.copyLevel copyTree source destination := by
  have enough : maxPathLength ≤
      destination.bytes.length + (maxPathLength - destination.bytes.length + 1) := by omega
  rw [← copyLevels_eq_copyTree enough]
  refine (copyLevel_congr fun call mem => ?_).symm
  have longer := length_lt_of_mem_levelCalls mem
  exact (copyLevels_eq_copyTree (by omega)).symm

end FileSystem

/-! ## Chains of calls -/

namespace CopyCall

variable {call inner : CopyCall} {chain : List CopyCall}

/-- Only a call whose destination is within the limit makes another one, and the other one's
destination is longer. -/
theorem Makes.lengths (makes : call.Makes inner) :
    0 < call.destination.bytes.length ∧ call.destination.bytes.length ≤ maxPathLength ∧
      call.destination.bytes.length < inner.destination.bytes.length := by
  obtain ⟨checked, -⟩ := FileSystem.exists_of_mem_levelCalls makes
  obtain ⟨-, notEmpty, short⟩ := FileSystem.checkPath_eq_ok_iff.1 checked
  exact ⟨List.length_pos_iff.2 notEmpty, short, FileSystem.length_lt_of_mem_levelCalls makes⟩

/-- There are no more calls below a call than bytes between its destination and the limit, and one. -/
private theorem length_add_le_of_isChain (nests : List.IsChain Makes (call :: chain))
    (notNil : chain ≠ []) :
    call.destination.bytes.length + chain.length ≤ maxPathLength + 1 := by
  induction chain generalizing call with
  | nil => exact absurd rfl notNil
  | cons inner rest ih =>
    obtain ⟨makes, onward⟩ := List.isChain_cons_cons.1 nests
    obtain ⟨-, short, longer⟩ := makes.lengths
    rw [List.length_cons]
    by_cases atEnd : rest = []
    · rw [atEnd, List.length_nil]
      omega
    · have deeper := ih onward atEnd
      omega

/-- Calls of which each makes the next are no more than 4096. -/
theorem length_le_of_isChain (nests : List.IsChain Makes (call :: chain)) :
    (call :: chain).length ≤ 4096 := by
  rw [List.length_cons]
  by_cases notNil : chain = []
  · rw [notNil, List.length_nil]
    omega
  · have counted := length_add_le_of_isChain nests notNil
    cases chain with
    | nil => exact absurd rfl notNil
    | cons inner rest =>
      obtain ⟨pos, -⟩ := (List.isChain_cons_cons.1 nests).1.lengths
      unfold maxPathLength at counted
      omega

end CopyCall

/-- The copy of a tree ends, whatever links there are and also when it meets what it has made. What a
call returns is read off one level and what the nested calls return; each of these has a longer
destination, a call whose destination is too long fails without making any, and so at most 4096 calls
are under way at any time. -/
theorem FileSystem.copyTree_terminates (fs : FileSystem) (source destination : Path) :
    let call : CopyCall := ⟨fs, source, destination⟩
    (∀ descend : FileSystem → Path → Path → Copied,
      (∀ inner ∈ call.nested,
        descend inner.files inner.source inner.destination = inner.outcome) →
      fs.copyLevel descend source destination = call.outcome) ∧
    (∀ inner ∈ call.nested, destination.bytes.length < inner.destination.bytes.length) ∧
    (maxPathLength < destination.bytes.length → call.nested = [] ∧
      ∃ fault, checkPath destination = .error fault ∧ call.outcome = ⟨fs, [], .error fault⟩) ∧
    ∀ chain, List.IsChain CopyCall.Makes (call :: chain) → (call :: chain).length ≤ 4096 := by
  intro call
  refine ⟨fun descend agree => ?_, fun inner makes => length_lt_of_mem_levelCalls makes,
    fun tooLong => ?_, fun chain nests => CopyCall.length_le_of_isChain nests⟩
  · rw [copyLevel_congr agree]
    exact (copyTree_eq_copyLevel fs source destination).symm
  · constructor
    · refine List.eq_nil_iff_forall_not_mem.2 fun inner makes => ?_
      exact Nat.not_le.2 tooLong (CopyCall.Makes.lengths makes).2.1
    · cases checked : checkPath destination with
      | ok => exact absurd (checkPath_eq_ok_iff.1 checked).2.2 (Nat.not_le.2 tooLong)
      | error fault => exact ⟨fault, rfl, copyLevels_of_checkPath checked⟩

end LineShell
