import LineShell.Completion
import LineShell.Proofs.Resolve
import LineShell.Proofs.Text.Cursor
import LineShell.Proofs.Text.Utf8

/-!
# What a line editor offers

A word with a slash goes on as the path of an entry in some directory. What is offered is read off
the directory to which the part of the word up to its last slash leads as it is written
(`mem_paths_iff`): each `..` is taken where the walk has come to, and a tilde is a name like any
other. A command takes the same text as an operand, which stands for the normal form of the path,
with the home directory for the tilde. `completesMeant_iff` says when the two agree, so that every
candidate is an entry that a command would find there and none is missing: without a tilde to replace
they do if the path leads up nowhere, whatever links there are, and in a file system without links if
there is a directory to look into.
-/

namespace LineShell

namespace FileSystem

variable {fs : FileSystem} {path : Path} {names : List Name} {name : Name}

/-- A path leads to a directory that holds an entry of the given name. -/
def Holds (fs : FileSystem) (path : Path) (name : Name) : Prop :=
  ∃ loc, fs.find path .follow = .ok (loc, .directory) ∧ name ∈ fs.names loc

theorem holds_iff : fs.Holds path name ↔ ∃ names, fs.list path = .ok names ∧ name ∈ names := by
  simp only [list_eq_ok_iff]
  constructor
  · rintro ⟨loc, found, mem⟩
    exact ⟨_, ⟨loc, found, rfl⟩, mem⟩
  · rintro ⟨_, ⟨loc, found, rfl⟩, mem⟩
    exact ⟨loc, found, mem⟩

/-- Only a directory holds names. -/
theorem Holds.isDirectory (h : fs.Holds path name) : fs.isDirectory path = true := by
  obtain ⟨loc, found, -⟩ := h
  exact isDirectory_eq_true_iff.2 ⟨loc, found⟩

/-- There is no slash in a name that a directory holds. -/
theorem Holds.slash_notMem (h : fs.Holds path name) : Path.slash ∉ name := by
  obtain ⟨loc, -, mem⟩ := h
  obtain ⟨found, stands⟩ := Option.ne_none_iff_exists'.1 (mem_names_iff.1 mem)
  exact (Name.isStep_of_isValid (isPlace_of_entry stands).1).2

end FileSystem

/-- The path that an operand is as it is written, from the working directory on. -/
def WorkingDirectory.typedPath (dir : WorkingDirectory) (operand : String) : Path :=
  dir.current.join (.ofString operand)

namespace Completion

open FileSystem

variable {fs : FileSystem} {dir : WorkingDirectory} {offered : Candidate} {directory beginning : List Char}
  {operand text : String}

/-- A name goes on from its beginning, and a hidden one from a beginning that shows the dot. -/
def Continues (beginning : List Char) (text : String) : Prop :=
  beginning <+: text.toList ∧ (text.toList.head? = some '.' → beginning.head? = some '.')

theorem offers_eq_true_iff : offers beginning text.toList = true ↔ Continues beginning text := by
  simp only [offers, Continues, Bool.and_eq_true, List.isPrefixOf_iff_prefix, Bool.or_eq_true,
    bne_iff_ne, beq_iff_eq, ne_eq]
  tauto

/-- A word is split behind its last slash. -/
theorem splitDirectory_eq_iff {word : List Char} :
    splitDirectory word = (directory, beginning) ↔
      word = directory ++ beginning ∧ '/' ∉ beginning ∧ ∀ c ∈ directory.getLast?, c = '/' := by
  have goesOn : '/' ∉ beginning ↔ ∀ c ∈ beginning, decide (c ≠ '/') = true := by
    simp [List.forall_mem_ne']
  have stops : (∀ c ∈ directory.getLast?, c = '/') ↔
      ∀ c ∈ directory.getLast?, decide (c ≠ '/') = false := by
    simp
  rw [goesOn, stops]
  exact Text.cut_iff

theorem splitDirectory_append (directory : List Char) (last : '/' ∉ beginning) :
    splitDirectory (directory ++ '/' :: beginning) = (directory ++ ['/'], beginning) :=
  splitDirectory_eq_iff.2 ⟨by simp, last, by simp⟩

/-- What is offered at a position of a line depends on the word there and on whether there are words
before it. -/
theorem complete_of_wordAt {current : Path} {line before word after : String} {position : Nat}
    (typed : Text.WordAt line position before word after) :
    complete fs current line position =
      ⟨before.utf8ByteSize,
        if Text.words before = [] then commands word.toList else paths fs current word.toList⟩ := by
  simp only [complete, typed.splitLastWord_eq, Text.trim_toList_eq_nil_iff, Text.byteLength_toList]

/-- What is found under a display is a candidate that is offered so. -/
private theorem of_getElem?_ofList {candidates : List Candidate} {display : String}
    (looked : (Std.ExtTreeMap.ofList
      (candidates.map fun candidate => (candidate.display, candidate)) compare)[display]? =
        some offered) : offered ∈ candidates ∧ offered.display = display := by
  rw [Std.ExtTreeMap.ofList_eq_insertMany_empty, Std.ExtTreeMap.getElem?_insertMany_list,
    Std.ExtTreeMap.getElem?_empty, Option.or_none, List.findSomeRev?_eq_findSome?_reverse] at looked
  obtain ⟨⟨key, other⟩, mem, held⟩ := List.exists_of_findSome?_eq_some looked
  rw [Option.ite_none_right_eq_some, Std.LawfulEqCmp.compare_eq_iff_eq, Option.some.injEq] at held
  obtain ⟨rfl, rfl⟩ := held
  obtain ⟨candidate, isOffered, same⟩ := List.mem_map.1 (List.mem_reverse.1 mem)
  cases same
  exact ⟨isOffered, rfl⟩

/-- Sorted candidates are in strictly ascending order of how they are offered. -/
theorem pairwise_sorted (candidates : List Candidate) :
    (sorted candidates).Pairwise fun one other => one.display < other.display := by
  rw [sorted, List.pairwise_map]
  refine Std.ExtTreeMap.ordered_keys_toList.imp_of_mem fun {one other} isOne isOther less => ?_
  -- Each candidate is kept under its own display.
  rw [Std.ExtTreeMap.mem_toList_iff_getElem?_eq_some] at isOne isOther
  rw [(of_getElem?_ofList isOne).2, (of_getElem?_ofList isOther).2]
  exact compareOfLessAndEq_eq_lt.1 less

/-- Sorting loses no candidate if different ones are offered differently. -/
theorem mem_sorted_iff {candidates : List Candidate}
    (distinct : ∀ one ∈ candidates, ∀ other ∈ candidates, one.display = other.display →
      one = other) : offered ∈ sorted candidates ↔ offered ∈ candidates := by
  simp only [sorted, List.mem_map, Prod.exists, exists_eq_right,
    Std.ExtTreeMap.mem_toList_iff_getElem?_eq_some]
  constructor
  · rintro ⟨display, looked⟩
    exact (of_getElem?_ofList looked).1
  · intro mem
    refine ⟨offered.display, ?_⟩
    have held : offered.display ∈ Std.ExtTreeMap.ofList
        (candidates.map fun candidate => (candidate.display, candidate)) compare := by
      rw [Std.ExtTreeMap.mem_ofList, List.map_map, List.contains_iff_mem]
      exact List.mem_map.2 ⟨offered, mem, rfl⟩
    obtain ⟨other, looked⟩ :=
      Option.isSome_iff_exists.1 (Std.ExtTreeMap.isSome_getElem?_iff_mem.2 held)
    obtain ⟨isOffered, same⟩ := of_getElem?_ofList looked
    rw [looked, distinct other isOffered offered mem same]

/-- What is offered tells the names of entries apart, and directories from anything else. -/
theorem candidate_inj {one other : String} {first second : Bool} (plain : '/' ∉ one.toList)
    (otherPlain : '/' ∉ other.toList)
    (same : (candidate operand one first).display = (candidate operand other second).display) :
    one = other ∧ first = second := by
  have ends : ∀ text : String, '/' ∈ (text ++ "/").toList := by simp
  cases first with
  | true =>
    cases second with
    | true =>
      have same : one ++ "/" = other ++ "/" := same
      exact ⟨(String.append_left_inj "/").1 same, rfl⟩
    | false =>
      have same : one ++ "/" = other := same
      exact absurd (same ▸ ends one) otherPlain
  | false =>
    cases second with
    | true =>
      have same : one = other ++ "/" := same
      exact absurd (same ▸ ends other) plain
    | false => exact ⟨same, rfl⟩

theorem slash_notMem_of_holds {path : Path} (h : fs.Holds path (Text.encode text)) :
    '/' ∉ text.toList :=
  fun mem => h.slash_notMem (List.mem_flatMap.2 ⟨'/', mem, by decide⟩)

/-- What is offered for an entry of a directory tells its name. -/
theorem eq_of_candidate_eq {path otherPath : Path} {other : String} {first second : Bool}
    (held : fs.Holds path (Text.encode text)) (otherHeld : fs.Holds otherPath (Text.encode other))
    (same : candidate operand text first = candidate operand other second) : text = other :=
  (candidate_inj (slash_notMem_of_holds held) (slash_notMem_of_holds otherHeld)
    (congrArg Candidate.display same)).1

/-- The directory in which a word is looked for, as it is written. -/
def searched (current : Path) (word : List Char) : Path :=
  if (splitDirectory word).1 = [] then current
  else current.join ⟨Text.encodeChars (splitDirectory word).1⟩

/-- The candidates among the names in the directory in which a word is looked for. -/
def pathsAmong (fs : FileSystem) (current : Path) (word : List Char) (names : List Name) :
    List Candidate :=
  names.filterMap fun name => do
    let text ← Text.decode? name
    if offers (splitDirectory word).2 text.toList then
      some (candidate (String.ofList (splitDirectory word).1) text
        (fs.isDirectory ((searched current word).entry name)))
    else none

/-- A name that is text is the form of that text. -/
theorem mem_pathsAmong_iff {current : Path} {word : List Char} {names : List Name} :
    offered ∈ pathsAmong fs current word names ↔
      ∃ text, Text.encode text ∈ names ∧ Continues (splitDirectory word).2 text ∧
        offered = candidate (String.ofList (splitDirectory word).1) text
          (fs.isDirectory ((searched current word).entry (Text.encode text))) := by
  simp only [pathsAmong, List.mem_filterMap, Option.bind_eq_bind, Option.bind_eq_some_iff,
    Text.decode?_eq_some_iff, Option.ite_none_right_eq_some, Option.some.injEq, offers_eq_true_iff]
  constructor
  · rintro ⟨_, mem, text, rfl, goesOn, rfl⟩
    exact ⟨text, mem, goesOn, rfl⟩
  · rintro ⟨text, mem, goesOn, rfl⟩
    exact ⟨_, mem, text, rfl, goesOn, rfl⟩

theorem paths_eq (fs : FileSystem) (current : Path) (word : List Char) :
    paths fs current word =
      match fs.list (searched current word) with
      | .error _ => []
      | .ok names => sorted (pathsAmong fs current word names) :=
  rfl

/-- What is offered for a word: the entries of the directory in which it is looked for whose names are
text and go on from what stands behind the last slash of the word. -/
theorem mem_paths_iff_holds {current : Path} {word : List Char} :
    offered ∈ paths fs current word ↔
      ∃ text, fs.Holds (searched current word) (Text.encode text) ∧
        Continues (splitDirectory word).2 text ∧
        offered = candidate (String.ofList (splitDirectory word).1) text
          (fs.isDirectory ((searched current word).entry (Text.encode text))) := by
  rw [paths_eq]
  simp only [holds_iff]
  cases listed : fs.list (searched current word) with
  | error fault => simp
  | ok names =>
    have noSlash : ∀ text, Text.encode text ∈ names → '/' ∉ text.toList := fun text mem =>
      slash_notMem_of_holds (holds_iff.2 ⟨names, listed, mem⟩)
    simp only
    rw [mem_sorted_iff, mem_pathsAmong_iff]
    · simp
    · intro one isOne other isOther same
      obtain ⟨text, mem, -, rfl⟩ := mem_pathsAmong_iff.1 isOne
      obtain ⟨otherText, otherMem, -, rfl⟩ := mem_pathsAmong_iff.1 isOther
      obtain ⟨sameText, sameKind⟩ :=
        candidate_inj (noSlash text mem) (noSlash otherText otherMem) same
      rw [sameKind, sameText]

/-- What is offered for a word with a slash: the entries of the directory to which the part of the
word up to the slash leads from the working directory, as it is written, whose names are text and go
on from the rest of the word. -/
theorem mem_paths_iff (last : '/' ∉ beginning) (written : operand.toList = directory ++ ['/']) :
    offered ∈ paths fs dir.current (directory ++ '/' :: beginning) ↔
      ∃ text, fs.Holds (dir.typedPath operand) (Text.encode text) ∧ Continues beginning text ∧
        offered = candidate operand text
          (fs.isDirectory ((dir.typedPath operand).entry (Text.encode text))) := by
  have spelled : searched dir.current (directory ++ '/' :: beginning) = dir.typedPath operand := by
    rw [searched, splitDirectory_append directory last, if_neg (by simp),
      WorkingDirectory.typedPath, Path.ofString, Text.encode, written]
  have named : String.ofList (directory ++ ['/']) = operand := by
    rw [← written, String.ofList_toList]
  rw [mem_paths_iff_holds, spelled, splitDirectory_append directory last, named]

/-- The candidates for a word are the entries that it can mean when it is typed on: those of the
directory that the part of the word up to its last slash denotes as an operand, with names that go
on from the rest. -/
structure CompletesMeant (fs : FileSystem) (dir : WorkingDirectory) (operand : String)
    (beginning : List Char) (candidates : List Candidate) : Prop where
  /-- Only such entries are offered. -/
  sound : ∀ offered ∈ candidates, ∃ text isDirectory,
    fs.Holds (dir.resolve operand) (Text.encode text) ∧ Continues beginning text ∧
      offered = candidate operand text isDirectory
  /-- All of them are offered. -/
  complete : ∀ text, fs.Holds (dir.resolve operand) (Text.encode text) →
    Continues beginning text → ∃ isDirectory, candidate operand text isDirectory ∈ candidates
  /-- Where the operand denotes no directory, nothing is offered. -/
  none : fs.isDirectory (dir.resolve operand) = false → candidates = []

theorem completesMeant_paths_iff (last : '/' ∉ beginning)
    (written : operand.toList = directory ++ ['/']) :
    CompletesMeant fs dir operand beginning
        (paths fs dir.current (directory ++ '/' :: beginning)) ↔
      ∀ text, Continues beginning text →
        (fs.Holds (dir.typedPath operand) (Text.encode text) ↔
          fs.Holds (dir.resolve operand) (Text.encode text)) := by
  constructor
  · intro meant text goesOn
    constructor
    · intro held
      obtain ⟨other, _, otherHeld, -, same⟩ :=
        meant.sound _ ((mem_paths_iff last written).2 ⟨text, held, goesOn, rfl⟩)
      rwa [eq_of_candidate_eq held otherHeld same]
    · intro held
      obtain ⟨_, isOffered⟩ := meant.complete text held goesOn
      obtain ⟨other, otherHeld, -, same⟩ := (mem_paths_iff last written).1 isOffered
      rwa [eq_of_candidate_eq held otherHeld same]
  · intro same
    have sound : ∀ offered ∈ paths fs dir.current (directory ++ '/' :: beginning),
        ∃ text isDirectory, fs.Holds (dir.resolve operand) (Text.encode text) ∧
          Continues beginning text ∧ offered = candidate operand text isDirectory := by
      intro offered isOffered
      obtain ⟨text, held, goesOn, rfl⟩ := (mem_paths_iff last written).1 isOffered
      exact ⟨text, _, (same text goesOn).1 held, goesOn, rfl⟩
    refine ⟨sound, fun text held goesOn => ?_, fun noDirectory => ?_⟩
    · exact ⟨_, (mem_paths_iff last written).2 ⟨text, (same text goesOn).2 held, goesOn, rfl⟩⟩
    · refine List.eq_nil_iff_forall_not_mem.2 fun offered isOffered => ?_
      obtain ⟨text, _, held, -⟩ := sound offered isOffered
      exact absurd held.isDirectory (by simp [noDirectory])

/-- A text that ends in a slash stands for itself unless it begins with `~/` and there is a home
directory. -/
theorem expandHome_of_slash (written : operand.toList = directory ++ ['/'])
    (noTilde : dir.home = none ∨ ¬ ['~', '/'] <+: operand.toList) :
    Path.expandHome dir.home operand = .ofString operand := by
  refine Path.expandHome_eq_ofString (noTilde.imp_right fun notBelow => ⟨fun lone => ?_, notBelow⟩)
  have lasts := congrArg List.getLast? (lone.symm.trans written)
  simp at lasts

/-- The directory to which an operand leads as it is written is the one that it denotes if nothing is
replaced and the path does not lead up, or leads to a directory without links on the way. -/
theorem holds_resolve_iff {name : Name} (absolute : dir.current.isAbsolute = true)
    (expanded : Path.expandHome dir.home operand = .ofString operand)
    (agrees : ((dir.typedPath operand).bytes.length ≤ maxPathLength ∧
        .up ∉ (dir.typedPath operand).steps) ∨
      ((∀ loc target, fs.entry? loc ≠ some (.link target)) ∧
        fs.isDirectory (dir.typedPath operand) = true)) :
    fs.Holds (dir.typedPath operand) name ↔ fs.Holds (dir.resolve operand) name := by
  have joined := Path.isAbsolute_join absolute (.ofString operand)
  rw [WorkingDirectory.resolve, expanded]
  rcases agrees with ⟨short, noUp⟩ | ⟨noLink, isDirectory⟩
  · exact exists_congr fun loc => and_congr_left' (find_normalize_iff joined noUp short).symm
  · -- Both lead to the one directory that is there.
    obtain ⟨loc, found⟩ := isDirectory_eq_true_iff.1 isDirectory
    have foundNormal := ((standsFor_normalize noLink).1 _ joined).find _ _ _ found
    simp only [Holds, found, foundNormal]

/-- What is offered for a later word with a slash is what the word can mean exactly if the directory
to which the part up to its last slash leads as it is written, and the one that this part denotes as
an operand, hold the same names that go on from the rest. This is so without a tilde to replace if
the path does not lead up, and in a file system without links if it leads to a directory. -/
theorem completesMeant_iff (fs : FileSystem) (dir : WorkingDirectory) (line : String)
    (position : Nat) {before directory beginning : List Char} {operand : String}
    (typed : Text.splitLastWord (Text.takeBytes position line.toList) =
      (before, directory ++ '/' :: beginning))
    (later : Text.trim before ≠ []) (last : '/' ∉ beginning)
    (written : operand.toList = directory ++ ['/']) :
    (CompletesMeant fs dir operand beginning (complete fs dir.current line position).candidates ↔
      ∀ text, Continues beginning text →
        (fs.Holds (dir.typedPath operand) (Text.encode text) ↔
          fs.Holds (dir.resolve operand) (Text.encode text))) ∧
    (dir.current.isAbsolute = true → (dir.home = none ∨ ¬ ['~', '/'] <+: operand.toList) →
      (((dir.typedPath operand).bytes.length ≤ maxPathLength ∧
          .up ∉ (dir.typedPath operand).steps) ∨
        ((∀ loc target, fs.entry? loc ≠ some (.link target)) ∧
          fs.isDirectory (dir.typedPath operand) = true)) →
      CompletesMeant fs dir operand beginning
        (complete fs dir.current line position).candidates) := by
  have offers : (complete fs dir.current line position).candidates =
      paths fs dir.current (directory ++ '/' :: beginning) := by
    rw [complete, typed]
    exact if_neg later
  rw [offers]
  refine ⟨completesMeant_paths_iff last written, fun absolute noTilde agrees => ?_⟩
  exact (completesMeant_paths_iff last written).2 fun _ _ =>
    holds_resolve_iff absolute (expandHome_of_slash written noTilde) agrees

theorem completesMeant_nestedDirectories :
    Text.splitLastWord (Text.takeBytes 9 "cat a//./".toList) =
        ("cat ".toList, "a//.".toList ++ '/' :: []) ∧
      Text.trim "cat ".toList ≠ [] ∧ '/' ∉ ([] : List Char) ∧
      "a//./".toList = "a//.".toList ++ ['/'] ∧
      (complete nestedDirectories (.ofString "/") "cat a//./" 9).candidates =
        [⟨"b/", "a//./b/"⟩] ∧
      CompletesMeant nestedDirectories ⟨.ofString "/", some (.ofString "/a")⟩ "a//./" []
        (complete nestedDirectories (.ofString "/") "cat a//./" 9).candidates := by
  have typed : Text.splitLastWord (Text.takeBytes 9 "cat a//./".toList) =
      ("cat ".toList, "a//.".toList ++ '/' :: []) := by
    decide +kernel
  have later : Text.trim "cat ".toList ≠ [] := by decide +kernel
  have written : "a//./".toList = "a//.".toList ++ ['/'] := by decide +kernel
  have offers : (complete nestedDirectories (.ofString "/") "cat a//./" 9).candidates =
      [⟨"b/", "a//./b/"⟩] := by
    decide +kernel
  refine ⟨typed, later, List.not_mem_nil, written, offers, ?_⟩
  exact (completesMeant_iff nestedDirectories ⟨.ofString "/", some (.ofString "/a")⟩ "cat a//./" 9
    typed later List.not_mem_nil written).2 (by decide +kernel) (.inr (by decide +kernel))
    (.inl ⟨by decide +kernel, by decide +kernel⟩)

/-- The home directory is not looked into for a tilde. -/
theorem not_completesMeant_tilde :
    ¬ CompletesMeant nestedDirectories ⟨.ofString "/", some (.ofString "/a")⟩ "~/" []
      (complete nestedDirectories (.ofString "/") "cat ~/" 6).candidates := by
  have offers : (complete nestedDirectories (.ofString "/") "cat ~/" 6).candidates = [] := by
    decide +kernel
  intro meant
  obtain ⟨isDirectory, isOffered⟩ := meant.complete "b"
    ⟨[Text.encode "a"], by decide +kernel, by decide +kernel⟩ ⟨by simp, by simp⟩
  rw [offers] at isOffered
  cases isOffered

/-- The same directories and a link `l` to the inner one. -/
def linkedBelow : FileSystem :=
  nestedDirectories.add [] (Text.encode "l") (.link (.ofString "a/b"))

/-- In a directory that has been entered through a link, `..` is not completed as it is meant. -/
theorem not_completesMeant_linkedBelow :
    WorkingDirectory.start linkedBelow (.ofString "/") none (.ofString "l") =
        .ok ⟨.ofString "/l", none⟩ ∧
      Text.splitLastWord (Text.takeBytes 7 "cat ../".toList) =
        ("cat ".toList, "..".toList ++ '/' :: []) ∧
      ¬ CompletesMeant linkedBelow ⟨.ofString "/l", none⟩ "../" []
        (complete linkedBelow (.ofString "/l") "cat ../" 7).candidates := by
  have offers : (complete linkedBelow (.ofString "/l") "cat ../" 7).candidates =
      [⟨"b/", "../b/"⟩] := by
    decide +kernel
  refine ⟨by decide +kernel, by decide +kernel, fun meant => ?_⟩
  obtain ⟨isDirectory, isOffered⟩ := meant.complete "a"
    ⟨[], by decide +kernel, by decide +kernel⟩ ⟨by simp, by simp⟩
  rw [offers, List.mem_singleton] at isOffered
  cases isDirectory with
  | true => exact absurd isOffered (by decide +kernel)
  | false => exact absurd isOffered (by decide +kernel)

end Completion

end LineShell
