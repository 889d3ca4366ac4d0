import Mathlib.Data.List.Nodup
import LineShell.Proofs.Accepting

/-!
# Completion goes on from what has been typed

The word that is completed ends at the cursor. The line editor looks for its beginning on its own,
backwards from there, and it finds the word that is found when the line is read (`exists_readsAlike`):
the candidates are names of commands exactly if the word would be the command word of the line.

Nothing that has been typed is lost (`exists_onlyExtends`). Each candidate has the word as its
beginning and ends it with a space, or with a slash for what is a directory when links are followed.
The candidates ascend strictly, and those for the path of an entry show each entry of the directory
once whose name goes on from the last part of the word, but for hidden ones.
-/

namespace LineShell

/-- Whether a candidate is offered for a name: it shows the name, or the name and a slash. -/
def Candidate.shows (offered : Candidate) (name : String) : Bool :=
  offered.display = name ∨ offered.display = name ++ "/"

namespace Completion

open FileSystem

variable {fs : FileSystem} {current : Path} {word : List Char} {offered : Candidate} {name : String}
  {loc : Location} {line : String} {position : Nat}

/-! ## Names of commands -/

theorem mem_commands_iff :
    offered ∈ commands word ↔ ∃ builtin : Builtin, word <+: builtin.name.toList ∧
      offered = ⟨builtin.name, builtin.name ++ " "⟩ := by
  have every : ∀ builtin : Builtin, builtin ∈ Builtin.all := by
    intro builtin
    cases builtin <;> decide
  simp only [commands, List.mem_map, List.mem_filter, List.isPrefixOf_iff_prefix, every, true_and,
    eq_comm (a := offered)]

/-! ## The word that is completed -/

/-- A line is completed at a position in step with how it is read: `before` stands before the word at
the position, of which `typed` has been typed. -/
structure ReadsAlike (fs : FileSystem) (current : Path) (line : String) (position : Nat)
    (before typed after : String) : Prop where
  /-- The line has these parts, the word has no blank, and it begins where the line does or behind a
  blank. -/
  wordAt : Text.WordAt line position before typed after
  /-- The completion starts where the word begins. -/
  start_eq : (complete fs current line position).start = before.utf8ByteSize
  /-- That is no later than at the position. -/
  start_le : (complete fs current line position).start ≤ position
  /-- It does not cut through a character. -/
  isValid_start : (⟨(complete fs current line position).start⟩ : String.Pos.Raw).IsValid line
  /-- The words up to the position are those before the word, and the word if it has been begun. -/
  words_eq : Text.words (before ++ typed) =
    Text.words before ++ if typed = "" then [] else [typed]
  /-- Names of commands are offered if no words stand before, and paths are otherwise. -/
  candidates_eq : (complete fs current line position).candidates =
    if Text.words before = [] then commands typed.toList else paths fs current typed.toList
  /-- In the former case the word goes on as each name of a command that begins with it, and as
  nothing else. -/
  command_iff : Text.words before = [] → ∀ offered,
    offered ∈ (complete fs current line position).candidates ↔
      ∃ builtin : Builtin, typed.toList <+: builtin.name.toList ∧
        offered = ⟨builtin.name, builtin.name ++ " "⟩
  /-- In the latter it goes on as the path of each entry whose name goes on from its last part, and
  as nothing else. -/
  path_iff : Text.words before ≠ [] → ∀ offered,
    offered ∈ (complete fs current line position).candidates ↔
      ∃ name loc, MadeFrom fs current typed.toList offered name loc
  /-- No words stand before exactly if the word, however it goes on, is read as the command word. -/
  first_iff : ∀ more, (∀ c ∈ more.toList, Text.isBlank c = false) → typed ++ more ≠ "" →
    (Text.words before = [] ↔
      Invocation.ofLine? (before ++ (typed ++ more)) = some ⟨typed ++ more, []⟩)

/-- At each boundary between characters a line is completed in step with how it is read. -/
theorem exists_readsAlike (fs : FileSystem) (current : Path)
    (boundary : (⟨position⟩ : String.Pos.Raw).IsValid line) :
    ∃ before typed after, ReadsAlike fs current line position before typed after := by
  obtain ⟨before, typed, after, wordAt⟩ := Text.exists_wordAt boundary
  have completed : complete fs current line position = _ := complete_of_wordAt wordAt
  have start : (complete fs current line position).start = before.utf8ByteSize := by rw [completed]
  -- What is left is about the place where the word begins: it is the end of what stands before.
  refine ⟨before, typed, after, wordAt, start, ?_, ?_, wordAt.words_eq, ?_, ?_, ?_, ?_⟩
  · rw [start, ← wordAt.position_eq, String.utf8ByteSize_append]
    exact Nat.le_add_right _ _
  · rw [start, String.Pos.Raw.isValid_iff_exists_append]
    refine ⟨before, typed ++ after, ?_, rfl⟩
    rw [wordAt.line_eq, String.append_assoc]
  · rw [completed]
  · intro none offered
    rw [completed, if_pos none, mem_commands_iff]
  · intro some offered
    rw [completed, if_neg some, mem_paths_iff_madeFrom]
  · exact fun more noBlank goesOn => wordAt.words_eq_nil_iff noBlank goesOn

theorem exists_readsAlike_wideSpace :
    (⟨7⟩ : String.Pos.Raw).IsValid "cat\u3000ab" ∧
      ∃ before typed after,
        ReadsAlike nestedDirectories (.ofString "/") "cat\u3000ab" 7 before typed after := by
  have boundary : (⟨7⟩ : String.Pos.Raw).IsValid "cat\u3000ab" :=
    String.Pos.Raw.isValid_iff_exists_append.2 ⟨"cat\u3000a", "b", by decide, by decide⟩
  exact ⟨boundary, exists_readsAlike nestedDirectories (.ofString "/") boundary⟩

/-! ## What a candidate adds -/

namespace MadeFrom

/-- A candidate ends in a slash or a space, as its path leads to a directory or not. -/
theorem toList_replacement (made : MadeFrom fs current word offered name loc) :
    offered.replacement.toList = (splitDirectory word).1 ++ name.toList ++
      [if fs.isDirectory ((searched current word).entry (Text.encode name)) then '/' else ' '] := by
  rw [made.offered_eq, candidate]
  split_ifs
  · simp
  · simp

theorem getLast?_replacement (made : MadeFrom fs current word offered name loc) :
    offered.replacement.toList.getLast? =
      some (if fs.isDirectory ((searched current word).entry (Text.encode name)) then '/'
        else ' ') := by
  rw [made.toList_replacement, List.getLast?_concat]

/-- The word is the beginning of its candidates. -/
theorem prefix_replacement (made : MadeFrom fs current word offered name loc) :
    word <+: offered.replacement.toList := by
  obtain ⟨whole, -⟩ := splitDirectory_cases word
  obtain ⟨⟨rest, goesOn⟩, -⟩ := made.continues
  -- Of the word, the directory is kept as it is typed, and the rest begins the name.
  rw [made.toList_replacement, ← goesOn, ← List.append_assoc, whole, List.append_assoc]
  exact List.prefix_append _ _

/-- What a candidate shows is the name that it is made from, and no other one without a slash. -/
theorem shows_iff {other : String} (made : MadeFrom fs current word offered name loc)
    (noSlash : '/' ∉ other.toList) : offered.shows other = true ↔ other = name := by
  have plain : '/' ∉ name.toList := slash_notMem_of_holds ⟨loc, made.found, made.held⟩
  rw [Candidate.shows, decide_eq_true_iff]
  constructor
  · have shown : ∀ second, offered.display =
        (candidate (String.ofList (splitDirectory word).1) other second).display →
        other = name := by
      intro second same
      rw [made.offered_eq] at same
      exact (candidate_inj plain noSlash same).1.symm
    rintro (same | same)
    · exact shown false same
    · exact shown true same
  · rintro rfl
    rw [made.offered_eq, candidate]
    split_ifs
    · exact .inr rfl
    · exact .inl rfl

end MadeFrom

theorem pairwise_paths (fs : FileSystem) (current : Path) (word : List Char) :
    (paths fs current word).Pairwise fun one other => one.display < other.display := by
  rw [paths_eq]
  split
  · exact .nil
  · exact pairwise_sorted _

/-- Candidates that ascend strictly differ. -/
theorem nodup_of_pairwise {candidates : List Candidate}
    (ascending : candidates.Pairwise fun one other => one.display < other.display) :
    candidates.Nodup := by
  apply ascending.imp
  rintro one _ less rfl
  exact String.lt_irrefl one.display less

theorem pairwise_commands (word : List Char) :
    (commands word).Pairwise fun one other => one.display < other.display := by
  have ascending : Builtin.all.Pairwise fun one other => one.name < other.name := by decide +kernel
  rw [commands, List.pairwise_map]
  exact ascending.filter _

/-- A name is shown once if an entry of that name goes on from the word, and not at all otherwise. -/
theorem countP_shows (held : fs.Holds (searched current word) (Text.encode name)) :
    (Continues (splitDirectory word).2 name →
      (paths fs current word).countP (·.shows name) = 1) ∧
    (¬ Continues (splitDirectory word).2 name →
      (paths fs current word).countP (·.shows name) = 0) := by
  have noSlash : '/' ∉ name.toList := slash_notMem_of_holds held
  constructor
  · intro continues
    obtain ⟨loc, found, mem⟩ := held
    let offered := candidate (String.ofList (splitDirectory word).1) name
      (fs.isDirectory ((searched current word).entry (Text.encode name)))
    have made : MadeFrom fs current word offered name loc := ⟨found, mem, continues, rfl⟩
    have isOffered : offered ∈ paths fs current word := mem_paths_iff_madeFrom.2 ⟨name, loc, made⟩
    -- Any candidate that shows the name is made from it, and so it is the same.
    have only : ∀ other ∈ paths fs current word,
        other.shows name = true ↔ (other == offered) = true := by
      intro other isOther
      rw [beq_iff_eq]
      constructor
      · intro shows
        obtain ⟨otherName, otherLoc, otherMade⟩ := mem_paths_iff_madeFrom.1 isOther
        obtain rfl := (otherMade.shows_iff noSlash).1 shows
        exact otherMade.offered_eq
      · rintro rfl
        exact (made.shows_iff noSlash).2 rfl
    rw [List.countP_congr only]
    exact List.count_eq_one_of_mem (nodup_of_pairwise (pairwise_paths fs current word)) isOffered
  · intro apart
    rw [List.countP_eq_zero]
    intro other isOther shows
    obtain ⟨otherName, otherLoc, otherMade⟩ := mem_paths_iff_madeFrom.1 isOther
    obtain rfl := (otherMade.shows_iff noSlash).1 shows
    exact apart otherMade.continues

/-! ## The candidates of a line -/

/-- The candidates for the path of an entry, whose directory is typed up to the last slash of a word
and whose name begins with the rest. -/
structure ListsEntries (fs : FileSystem) (current : Path) (word : List Char)
    (candidates : List Candidate) : Prop where
  /-- The word is split behind its last slash. -/
  parts : word = (splitDirectory word).1 ++ (splitDirectory word).2 ∧
    '/' ∉ (splitDirectory word).2 ∧ ∀ c ∈ (splitDirectory word).1.getLast?, c = '/'
  /-- The candidates are made from the entries of the directory whose names go on from that beginning.
  -/
  mem_iff : ∀ offered, offered ∈ candidates ↔
    ∃ name loc, MadeFrom fs current word offered name loc
  /-- A slash ends those, and no others, that are directories when links are followed, if their paths
  can be looked up. -/
  slash_iff : ∀ offered name loc, MadeFrom fs current word offered name loc →
    ((searched current word).entry (Text.encode name)).bytes.length ≤ maxPathLength →
    (offered.replacement.toList.getLast? = some '/' ↔
      fs.LeadsToDirectory (searched current word) loc (Text.encode name))
  /-- Each entry whose name is text and goes on from the beginning is shown once. -/
  once : ∀ name, fs.Holds (searched current word) (Text.encode name) →
    Continues (splitDirectory word).2 name → candidates.countP (·.shows name) = 1
  /-- No other entry is shown, be it that its name does not go on so or that it is hidden. -/
  passedOver : ∀ name, fs.Holds (searched current word) (Text.encode name) →
    ¬ Continues (splitDirectory word).2 name → candidates.countP (·.shows name) = 0

/-- The candidates at a position of a line add to what has been typed: `before` stands before the word
at the position, of which `typed` has been typed. -/
structure OnlyExtends (fs : FileSystem) (current : Path) (line : String) (position : Nat)
    (before typed after : String) (completion : Completion) : Prop where
  /-- The line has these parts, and the word has no blank. -/
  wordAt : Text.WordAt line position before typed after
  /-- A candidate takes the place of the word as far as the position. -/
  start_eq : completion.start = before.utf8ByteSize
  /-- It begins with what has been typed of the word. -/
  begins : ∀ offered ∈ completion.candidates, typed.toList <+: offered.replacement.toList
  /-- It ends in a space or a slash. -/
  ends : ∀ offered ∈ completion.candidates,
    offered.replacement.toList.getLast? = some ' ' ∨ offered.replacement.toList.getLast? = some '/'
  /-- The candidates are in strictly ascending order of what they show. -/
  ascending : completion.candidates.Pairwise fun one other => one.display < other.display
  /-- No candidate is there twice. -/
  nodup : completion.candidates.Nodup
  /-- The command word goes on as any name of a command that begins with it; a space ends the name. -/
  command : Text.words before = [] → ∀ offered, offered ∈ completion.candidates ↔
    ∃ builtin : Builtin, typed.toList <+: builtin.name.toList ∧
      offered = ⟨builtin.name, builtin.name ++ " "⟩
  /-- Any other word goes on as the path of an entry. -/
  entry : Text.words before ≠ [] → ListsEntries fs current typed.toList completion.candidates

theorem listsEntries_paths (fs : FileSystem) (current : Path) (word : List Char) :
    ListsEntries fs current word (paths fs current word) where
  parts := splitDirectory_eq_iff.1 (Eq.refl (splitDirectory word))
  mem_iff _ := mem_paths_iff_madeFrom
  slash_iff offered name loc made short := by
    obtain ⟨entry, stands⟩ := made.exists_entry
    rw [made.getLast?_replacement, ← isDirectory_entry_iff made.found stands short,
      Option.some.injEq]
    split_ifs with isDirectory
    · exact iff_of_true rfl isDirectory
    · exact iff_of_false (by decide) isDirectory
  once _ held := (countP_shows held).1
  passedOver _ held := (countP_shows held).2

/-- At each boundary between characters of a line, completion adds to what has been typed. -/
theorem exists_onlyExtends (fs : FileSystem) (current : Path)
    (boundary : (⟨position⟩ : String.Pos.Raw).IsValid line) :
    ∃ before typed after, OnlyExtends fs current line position before typed after
      (complete fs current line position) := by
  obtain ⟨before, typed, after, wordAt⟩ := Text.exists_wordAt boundary
  refine ⟨before, typed, after, ?_⟩
  rw [complete_of_wordAt wordAt]
  by_cases first : Text.words before = []
  · rw [if_pos first]
    -- The names of the commands are in order, and leaving some out keeps it.
    have ascending := pairwise_commands typed.toList
    refine ⟨wordAt, rfl, fun offered isOffered => ?_, fun offered isOffered => ?_, ascending,
      nodup_of_pairwise ascending, fun _ _ => mem_commands_iff, absurd first⟩
    all_goals obtain ⟨builtin, begins, rfl⟩ := mem_commands_iff.1 isOffered
    · rw [String.toList_append]
      exact begins.trans (List.prefix_append _ _)
    · exact .inl (by simp)
  · rw [if_neg first]
    -- The names of entries have been put in order for it.
    have ascending := pairwise_paths fs current typed.toList
    refine ⟨wordAt, rfl, fun offered isOffered => ?_, fun offered isOffered => ?_, ascending,
      nodup_of_pairwise ascending, fun none => absurd none first,
      fun _ => listsEntries_paths fs current typed.toList⟩
    all_goals obtain ⟨name, loc, made⟩ := mem_paths_iff_madeFrom.1 isOffered
    · exact made.prefix_replacement
    · rw [made.getLast?_replacement]
      split_ifs
      · exact .inr rfl
      · exact .inl rfl

example : (complete linkedBelow (.ofString "/") "cat l" 5).candidates = [⟨"l/", "l/"⟩] := by
  decide +kernel

theorem exists_onlyExtends_linkedBelow :
    (⟨5⟩ : String.Pos.Raw).IsValid "cat l" ∧
      ∃ before typed after, OnlyExtends linkedBelow (.ofString "/") "cat l" 5 before typed after
        (complete linkedBelow (.ofString "/") "cat l" 5) := by
  have boundary : (⟨5⟩ : String.Pos.Raw).IsValid "cat l" :=
    String.Pos.Raw.isValid_iff_exists_append.2 ⟨"cat l", "", by decide, by decide⟩
  exact ⟨boundary, exists_onlyExtends linkedBelow (.ofString "/") boundary⟩

end Completion

end LineShell
