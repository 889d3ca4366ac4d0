import LineShell.Proofs.Completion

/-!
# What an accepted completion names

A candidate takes the place of the word before the cursor. The line is then read again like any other:
it is cut into words, and the operand is looked up from the working directory, with the home directory
for a leading tilde. Nothing is quoted on the way. So the line calls its command with the entry that the
candidate was made from exactly if the name of the entry has no blank, and is not a lone tilde that would
be replaced (`accepted_iff`). It does not matter what else is in the name, nor whether the entry is a
directory, which a slash ends, or anything else, which a space ends.
-/

namespace LineShell

namespace Completion

open FileSystem

/-- The line when a candidate takes the place of the word at its end. -/
def accept (completion : Completion) (line : String) (offered : Candidate) : String :=
  String.ofList (Text.takeBytes completion.start line.toList) ++ offered.replacement

/-- A candidate for a word is offered for the entry of a name in the directory at a location. -/
structure MadeFrom (fs : FileSystem) (current : Path) (word : List Char) (offered : Candidate)
    (name : String) (loc : Location) : Prop where
  /-- The word is looked for in the directory. -/
  found : fs.find (searched current word) .follow = .ok (loc, .directory)
  /-- The directory holds the entry. -/
  held : Text.encode name ∈ fs.names loc
  /-- The name goes on from what stands behind the last slash of the word. -/
  continues : Continues (splitDirectory word).2 name
  /-- The candidate is the one for that name. -/
  offered_eq : offered = candidate (String.ofList (splitDirectory word).1) name
    (fs.isDirectory ((searched current word).entry (Text.encode name)))

/-- A line calls a command with one operand, which is what has been offered and denotes the entry at a
location. -/
structure NamesEntry (fs : FileSystem) (dir : WorkingDirectory) (line command : String)
    (offered : Candidate) (loc : Location) (operand : String) : Prop where
  /-- The command is called with the operand alone. -/
  called : Invocation.ofLine? line = some ⟨command, [operand]⟩
  /-- The operand is the replacement, apart from a space that ends it. -/
  replaced : offered.replacement = operand ∨ offered.replacement = operand ++ " "
  /-- The operand denotes the path of the entry. -/
  resolved : dir.resolve operand = .ofLocation loc
  /-- The entry is found there, unless the path is too long. -/
  reached : (dir.resolve operand).bytes.length ≤ maxPathLength →
    ∀ last, ∃ entry, fs.find (dir.resolve operand) last = .ok (loc, entry)

variable {fs : FileSystem} {dir : WorkingDirectory} {current : Path} {word : List Char}
  {offered : Candidate} {command name operand : String} {loc : Location}

/-! ## The line -/

/-- The two parts of a word are all of it, and the first one is empty or ends in a slash. -/
theorem splitDirectory_cases (word : List Char) :
    (splitDirectory word).1 ++ (splitDirectory word).2 = word ∧
      ((splitDirectory word).1 = [] ∨ ∃ front, (splitDirectory word).1 = front ++ ['/']) := by
  obtain ⟨directory, beginning, split⟩ : ∃ directory beginning,
      splitDirectory word = (directory, beginning) := ⟨_, _, rfl⟩
  obtain ⟨whole, -, slash⟩ := splitDirectory_eq_iff.1 split
  rw [split]
  refine ⟨whole.symm, (List.eq_nil_or_concat' directory).imp_right ?_⟩
  rintro ⟨front, c, rfl⟩
  obtain rfl := slash c (by simp)
  exact ⟨front, rfl⟩

/-- At the end of a line with one word after the command, the word is completed. -/
theorem complete_at_end (isWord : Text.IsWord command)
    (noBlank : ∀ c ∈ word, Text.isBlank c = false) :
    let line := command ++ " " ++ String.ofList word
    complete fs current line (Text.byteLength line.toList) =
      ⟨Text.byteLength (command.toList ++ [' ']), paths fs current word⟩ := by
  intro line
  have typed : Text.WordAt line (Text.byteLength line.toList) (command ++ " ")
      (String.ofList word) "" := {
    line_eq := String.append_empty.symm
    position_eq := (Text.byteLength_toList line).symm
    noBlank := by rwa [String.toList_ofList]
    begins := by simp [Text.isBlank_space] }
  -- The command is no blank, so that the word behind it is not the first of the line.
  have later : Text.words (command ++ " ") ≠ [] := by
    intro blank
    obtain ⟨c, mem⟩ := List.exists_mem_of_ne_nil _ isWord.1
    exact isWord.notMem (Text.words_eq_nil_iff.1 blank c (by simp [mem])) mem
  rw [complete_of_wordAt typed, if_neg later, String.toList_ofList, ← Text.byteLength_toList,
    String.toList_append]
  rfl

theorem accept_at_end (isWord : Text.IsWord command)
    (noBlank : ∀ c ∈ word, Text.isBlank c = false) (offered : Candidate) :
    let line := command ++ " " ++ String.ofList word
    (complete fs current line (Text.byteLength line.toList)).accept line offered =
      command ++ " " ++ offered.replacement := by
  intro line
  have written : line.toList = (command.toList ++ [' ']) ++ word := by simp [line]
  rw [complete_at_end isWord noBlank, accept, written, Text.takeBytes_append]
  simp

/-- A word behind the command is read as its one operand, with or without a space at the end. -/
theorem ofLine?_replaced (isWord : Text.IsWord command) (operandIsWord : Text.IsWord operand)
    (replaced : offered.replacement = operand ∨ offered.replacement = operand ++ " ") :
    Invocation.ofLine? (command ++ " " ++ offered.replacement) = some ⟨command, [operand]⟩ := by
  have starts := operandIsWord.isTight.first
  rw [Invocation.ofLine?_eq_some_iff]
  rcases replaced with same | spaced
  · rw [same, Text.words_append_space isWord starts, Text.words_of_isWord operandIsWord]
  · have startsToo : ∀ c ∈ (operand ++ " ").toList.head?, Text.isBlank c = false := by
      rwa [String.toList_append, List.head?_append_of_ne_nil _ operandIsWord.1]
    have ended : Text.words (operand ++ " ") = [operand] := by
      have cut : Text.words (operand ++ " " ++ "") = operand :: Text.words "" :=
        Text.words_append_space operandIsWord (by simp)
      rwa [String.append_empty] at cut
    rw [spaced, Text.words_append_space isWord startsToo, ended]

/-! ## The operand -/

/-- The name of an entry is put behind the part of the word up to its last slash. -/
theorem join_typed (isStep : Name.IsStep (Text.encode name)) :
    current.join ⟨Text.encodeChars ((splitDirectory word).1 ++ name.toList)⟩ =
      (searched current word).entry (Text.encode name) := by
  obtain ⟨-, typed | ⟨front, typed⟩⟩ := splitDirectory_cases word
  · rw [searched, typed, if_pos rfl]
    rfl
  · have slashed : Text.encodeChars (front ++ ['/']) = Text.encodeChars front ++ [Path.slash] :=
      Text.encodeChars_append front ['/']
    have ends : (current.join ⟨Text.encodeChars front ++ [Path.slash]⟩).bytes.getLast? =
        some Path.slash := by
      unfold Path.join
      split_ifs <;> simp [List.getLast?_cons]
    -- The directory's path ends in a slash, so that none is put before the name.
    rw [searched, typed, if_neg (by simp), Text.encodeChars_append, slashed,
      Path.join_append (by simp), Path.entry, Path.join.eq_def (current.join _),
      if_neg (by simp [Path.isAbsolute_mk_of_isStep isStep]), if_pos (.inr ends)]
    rfl

/-- What is offered for a word is made from the entries of the directory in which it is looked for. -/
theorem mem_paths_iff_madeFrom :
    offered ∈ paths fs current word ↔ ∃ name loc, MadeFrom fs current word offered name loc := by
  rw [mem_paths_iff_holds]
  constructor
  · rintro ⟨name, ⟨loc, found, held⟩, continues, same⟩
    exact ⟨name, loc, found, held, continues, same⟩
  · rintro ⟨name, loc, made⟩
    exact ⟨name, ⟨loc, made.found, made.held⟩, made.continues, made.offered_eq⟩

theorem MadeFrom.exists_entry (made : MadeFrom fs current word offered name loc) :
    ∃ entry, fs.entry? (Text.encode name :: loc) = some entry :=
  Option.ne_none_iff_exists'.1 (mem_names_iff.1 made.held)

theorem MadeFrom.isStep (made : MadeFrom fs current word offered name loc) :
    Name.IsStep (Text.encode name) := by
  obtain ⟨entry, stands⟩ := made.exists_entry
  exact Name.isStep_of_isValid (isPlace_of_entry stands).1

theorem MadeFrom.toList_ne_nil (made : MadeFrom fs current word offered name loc) :
    name.toList ≠ [] := by
  intro empty
  refine made.isStep.ne_nil ?_
  rw [Text.encode, empty]
  rfl

/-- Where nothing is replaced, the operand denotes the path of the entry. -/
theorem MadeFrom.resolve_eq {slash : List Char}
    (made : MadeFrom fs dir.current word offered name loc)
    (absolute : dir.current.isAbsolute = true)
    (noLink : ∀ loc target, fs.entry? loc ≠ some (.link target))
    (ending : slash = [] ∨ slash = ['/'])
    (written : operand.toList = (splitDirectory word).1 ++ name.toList ++ slash)
    (expanded : Path.expandHome dir.home operand = .ofString operand) :
    dir.resolve operand = .ofLocation (Text.encode name :: loc) := by
  obtain ⟨located, -⟩ := find_eq_ok_iff.1 made.found
  obtain ⟨checked, leads⟩ := locate_eq_ok_iff.1 located
  -- Without links the directory is where the steps of its path arrive.
  have arrives : (searched dir.current word).arrival = loc := (leads.eq_foldl_advance noLink).symm
  have toEntry := Path.arrival_entry made.isStep (checkPath_eq_ok_iff.1 checked).2.1
  rw [arrives, ← join_typed made.isStep] at toEntry
  rw [WorkingDirectory.resolve, expanded,
    Path.normalize_eq_ofLocation (Path.isAbsolute_join absolute _), Path.ofString, Text.encode,
    written]
  rcases ending with rfl | rfl
  · rw [List.append_nil, toEntry]
  · have notNil : Text.encodeChars ((splitDirectory word).1 ++ name.toList) ≠ [] := by
      rw [Text.encodeChars_append]
      exact List.append_ne_nil_of_right_ne_nil _ made.isStep.ne_nil
    rw [Text.encodeChars_append, Path.join_append notNil]
    exact congrArg Path.ofLocation ((Path.arrival_append_slash _).trans toEntry)

/-- A candidate is an operand, with a slash as the end of a directory, or with a space behind anything
else. -/
theorem MadeFrom.exists_operand (made : MadeFrom fs current word offered name loc) :
    ∃ (operand : String) (slash : List Char),
      operand.toList = (splitDirectory word).1 ++ name.toList ++ slash ∧
      (slash = ['/'] ∧ offered.replacement = operand ∨
        slash = [] ∧ offered.replacement = operand ++ " ") := by
  rw [made.offered_eq, candidate]
  split_ifs
  · exact ⟨_, ['/'], by simp, .inl ⟨rfl, rfl⟩⟩
  · exact ⟨_, [], by simp, .inr ⟨rfl, rfl⟩⟩

/-- Only this operand can be read from what is offered. -/
theorem eq_of_replaced {other : String} {front slash : List Char}
    (written : operand.toList = front ++ slash)
    (offers : slash = ['/'] ∧ offered.replacement = operand ∨
      slash = [] ∧ offered.replacement = operand ++ " ")
    (isWord : Text.IsWord other)
    (replaced : offered.replacement = other ∨ offered.replacement = other ++ " ") :
    other = operand := by
  rcases offers with ⟨rfl, isOperand⟩ | ⟨-, isOperand⟩
  · rcases replaced with same | spaced
    · exact same.symm.trans isOperand
    · -- One ends in a slash and the other one in a space.
      have lasts := congrArg (fun text : String => text.toList.getLast?) (isOperand.symm.trans spaced)
      simp [written] at lasts
  · rcases replaced with same | spaced
    · -- The space behind the operand would be in the other word.
      have mem : ' ' ∈ other.toList := by
        rw [← same, isOperand]
        simp
      exact absurd mem (isWord.notMem Text.isBlank_space)
    · exact (String.append_left_inj " ").1 (spaced.symm.trans isOperand)

/-! ## A lone tilde -/

theorem resolve_tilde {home : Path} {slash : List Char} (known : dir.home = some home)
    (ending : slash = [] ∨ slash = ['/']) (written : operand.toList = '~' :: slash) :
    dir.resolve operand = (dir.current.join home).normalize := by
  have expanded : Path.expandHome (some home) operand = home := by
    rcases ending with rfl | rfl
    · exact Path.expandHome_tilde written
    · unfold Path.expandHome
      simp only [written]
      rfl
  rw [WorkingDirectory.resolve, known, expanded]

/-- A name that is no tilde is not replaced, with or without a slash behind it. -/
theorem expandHome_of_name {home : Option Path} {slash : List Char} (notNil : name.toList ≠ [])
    (noSlash : '/' ∉ name.toList) (notTilde : name ≠ "~")
    (written : operand.toList = name.toList ++ slash) :
    Path.expandHome home operand = .ofString operand := by
  obtain ⟨first, later, spelled⟩ := List.exists_cons_of_ne_nil notNil
  have goesOn : first = '~' → later ≠ [] := by
    rintro rfl rfl
    exact notTilde (String.toList_inj.1 spelled)
  rw [spelled, List.cons_append] at written
  refine Path.expandHome_eq_ofString (.inr ⟨fun lone => ?_, fun begins => ?_⟩)
  · rw [written, List.cons.injEq, List.append_eq_nil_iff] at lone
    exact goesOn lone.1 lone.2.1
  · rw [written, List.cons_prefix_cons] at begins
    obtain ⟨tilde, below⟩ := begins
    obtain ⟨next, more, rfl⟩ := List.exists_cons_of_ne_nil (goesOn tilde.symm)
    obtain ⟨rfl, -⟩ := List.cons_prefix_cons.1 below
    exact noSlash (by simp [spelled])

/-- Nothing is replaced in an operand unless the empty word has been completed with a tilde. -/
theorem MadeFrom.expandHome_eq {slash : List Char} {home : Option Path}
    (made : MadeFrom fs current word offered name loc) (noTilde : word.head? ≠ some '~')
    (written : operand.toList = (splitDirectory word).1 ++ name.toList ++ slash)
    (notAlone : ¬ (word = [] ∧ name = "~")) :
    Path.expandHome home operand = .ofString operand := by
  have noSlash : '/' ∉ name.toList := slash_notMem_of_holds ⟨loc, made.found, made.held⟩
  obtain ⟨whole, typed | ⟨front, typed⟩⟩ := splitDirectory_cases word
  · rw [typed, List.nil_append] at whole written
    refine expandHome_of_name made.toList_ne_nil noSlash (fun tilde => notAlone ⟨?_, tilde⟩) written
    -- Of a lone tilde, only the empty word is another beginning.
    have begins := made.continues.1
    rw [whole, tilde] at begins
    cases word with
    | nil => rfl
    | cons first rest =>
      obtain ⟨rfl, -⟩ := List.cons_prefix_cons.1 begins
      exact absurd rfl noTilde
  · -- The operand begins with the same character as the word.
    have notNil : (splitDirectory word).1 ≠ [] := by simp [typed]
    refine Path.expandHome_of_head? home ?_
    rw [written, List.append_assoc, List.head?_append_of_ne_nil _ notNil]
    rwa [← whole, List.head?_append_of_ne_nil _ notNil] at noTilde

/-! ## The candidates of a line -/

/-- The entry is found along its path unless the path is too long. -/
theorem MadeFrom.reached (made : MadeFrom fs current word offered name loc)
    (noLink : ∀ loc target, fs.entry? loc ≠ some (.link target))
    (short : (Path.ofLocation (Text.encode name :: loc)).bytes.length ≤ maxPathLength)
    (last : LastStep) :
    ∃ entry, fs.find (.ofLocation (Text.encode name :: loc)) last =
      .ok (Text.encode name :: loc, entry) := by
  obtain ⟨entry, stands⟩ := made.exists_entry
  have place := isPlace_of_entry stands
  have located := locate_ofLocation last place (checkPath_ofLocation place short)
    (.inr (noLink _))
  exact ⟨entry, find_eq_ok_iff.2 ⟨located, stands⟩⟩

theorem exists_namesEntry_iff (isWord : Text.IsWord command)
    (noBlank : ∀ c ∈ word, Text.isBlank c = false) (noTilde : word.head? ≠ some '~')
    (absolute : dir.current.isAbsolute = true)
    (noLink : ∀ loc target, fs.entry? loc ≠ some (.link target))
    (made : MadeFrom fs dir.current word offered name loc) :
    (∃ operand, NamesEntry fs dir (command ++ " " ++ offered.replacement) command offered
        (Text.encode name :: loc) operand) ↔
      (∀ c ∈ name.toList, Text.isBlank c = false) ∧
        (word = [] → name = "~" → ∀ home, dir.home = some home →
          (dir.current.join home).normalize = .ofLocation (Text.encode name :: loc)) := by
  obtain ⟨operand, slash, written, offers⟩ := made.exists_operand
  have ending : slash = [] ∨ slash = ['/'] := offers.symm.imp And.left And.left
  obtain ⟨whole, -⟩ := splitDirectory_cases word
  have lone : word = [] → name = "~" → operand.toList = '~' :: slash := by
    rintro rfl rfl
    rw [written]
    rfl
  constructor
  · rintro ⟨other, names⟩
    have otherIsWord : Text.IsWord other :=
      Text.of_mem_words (by rw [Invocation.ofLine?_eq_some_iff.1 names.called]; simp)
    obtain rfl := eq_of_replaced written offers otherIsWord names.replaced
    refine ⟨fun c mem => otherIsWord.2 c (by simp [written, mem]), fun empty tilde home known => ?_⟩
    rw [← resolve_tilde known ending (lone empty tilde)]
    exact names.resolved
  · rintro ⟨nameNoBlank, sameHome⟩
    have operandIsWord : Text.IsWord operand := by
      constructor
      · simp [written, made.toList_ne_nil]
      · intro c mem
        rw [written, List.append_assoc] at mem
        rcases List.mem_append.1 mem with typed | mem
        · exact noBlank c (whole ▸ List.mem_append_left _ typed)
        · rcases List.mem_append.1 mem with mem | mem
          · exact nameNoBlank c mem
          · rcases ending with rfl | rfl
            · cases mem
            · obtain rfl := List.mem_singleton.1 mem
              decide
    -- Only a tilde that completes the empty word may be replaced, and then it is known to be the same.
    have resolved : dir.resolve operand = .ofLocation (Text.encode name :: loc) := by
      by_cases alone : word = [] ∧ name = "~"
      · cases known : dir.home with
        | some home =>
          rw [resolve_tilde known ending (lone alone.1 alone.2)]
          exact sameHome alone.1 alone.2 home known
        | none =>
          exact made.resolve_eq absolute noLink ending written
            (Path.expandHome_eq_ofString (.inl known))
      · exact made.resolve_eq absolute noLink ending written
          (made.expandHome_eq noTilde written alone)
    have replaced := offers.imp And.right And.right
    refine ⟨operand, ofLine?_replaced isWord operandIsWord replaced, replaced, resolved, ?_⟩
    rw [resolved]
    exact made.reached noLink

/-- At the end of a line with one word after the command, what is offered is made from the entries of
the directory in which the word is looked for. Where there are no links, the line with a candidate in
the place of the word calls the command with that entry alone exactly if the name of the entry has no
blank, and is not a tilde that completes the empty word and stands for a home directory elsewhere. -/
theorem accepted_iff (fs : FileSystem) (dir : WorkingDirectory) {command : String}
    {word : List Char} (isWord : Text.IsWord command)
    (noBlank : ∀ c ∈ word, Text.isBlank c = false) (noTilde : word.head? ≠ some '~')
    (absolute : dir.current.isAbsolute = true)
    (noLink : ∀ loc target, fs.entry? loc ≠ some (.link target)) (offered : Candidate) :
    let line := command ++ " " ++ String.ofList word
    let completion := complete fs dir.current line (Text.byteLength line.toList)
    (offered ∈ completion.candidates ↔
      ∃ name loc, MadeFrom fs dir.current word offered name loc) ∧
    ∀ name loc, MadeFrom fs dir.current word offered name loc →
      ((∃ operand, NamesEntry fs dir (completion.accept line offered) command offered
          (Text.encode name :: loc) operand) ↔
        (∀ c ∈ name.toList, Text.isBlank c = false) ∧
          (word = [] → name = "~" → ∀ home, dir.home = some home →
            (dir.current.join home).normalize = .ofLocation (Text.encode name :: loc))) := by
  intro line completion
  have offers : completion.candidates = paths fs dir.current word :=
    congrArg Completion.candidates (complete_at_end isWord noBlank)
  have accepted : completion.accept line offered = command ++ " " ++ offered.replacement :=
    accept_at_end isWord noBlank offered
  rw [offers, accepted]
  exact ⟨mem_paths_iff_madeFrom, fun name loc made =>
    exists_namesEntry_iff isWord noBlank noTilde absolute noLink made⟩

theorem accepted_nestedDirectories :
    let dir : WorkingDirectory := ⟨.ofString "/", some (.ofString "/")⟩
    let completion := complete nestedDirectories dir.current "cat a/" 6
    MadeFrom nestedDirectories dir.current "a/".toList ⟨"b/", "a/b/"⟩ "b" [Text.encode "a"] ∧
      completion.accept "cat a/" ⟨"b/", "a/b/"⟩ = "cat a/b/" ∧
      ⟨"b/", "a/b/"⟩ ∈ completion.candidates ∧
      ∃ operand, NamesEntry nestedDirectories dir "cat a/b/" "cat" ⟨"b/", "a/b/"⟩
        [Text.encode "b", Text.encode "a"] operand := by
  intro dir completion
  have plain : nestedDirectories.IsPlain := by decide +kernel
  have made : MadeFrom nestedDirectories dir.current "a/".toList ⟨"b/", "a/b/"⟩ "b"
      [Text.encode "a"] :=
    ⟨by decide +kernel, by decide +kernel, ⟨by decide +kernel, by decide +kernel⟩,
      by decide +kernel⟩
  have accepted : completion.accept "cat a/" ⟨"b/", "a/b/"⟩ = "cat a/b/" := by decide +kernel
  have areWords : ∀ word ∈ ["cat", "a/", "b"], Text.IsWord word := by
    have read : Text.words "cat a/ b" = ["cat", "a/", "b"] := by decide +kernel
    rw [← read]
    exact fun _ => Text.of_mem_words
  obtain ⟨offers, names⟩ := @accepted_iff nestedDirectories dir "cat" "a/".toList
    (areWords "cat" (by simp)) (areWords "a/" (by simp)).2 (by decide +kernel) (by decide +kernel)
    plain.noLink ⟨"b/", "a/b/"⟩
  have named := (names _ _ made).2 ⟨(areWords "b" (by simp)).2, nofun⟩
  exact ⟨made, accepted, offers.2 ⟨_, _, made⟩, named⟩

/-- A root with a file whose name has a space, and a file whose name is a tilde. -/
def oddNames : FileSystem :=
  (empty.addFile [] (Text.encode "a b") ⟨[], false⟩).addFile [] (Text.encode "~") ⟨[], false⟩

/-- A name with a space is read as two operands, and a lone tilde as the home directory. -/
theorem not_accepted_oddNames :
    let dir : WorkingDirectory := ⟨.ofString "/", some (.ofString "/home")⟩
    let spaced : Candidate := ⟨"a b", "a b "⟩
    let tilde : Candidate := ⟨"~", "~ "⟩
    (∀ loc target, oddNames.entry? loc ≠ some (.link target)) ∧
      (complete oddNames dir.current "cat a" 5).candidates = [spaced] ∧
      MadeFrom oddNames dir.current "a".toList spaced "a b" [] ∧
      (∀ operand, Invocation.ofLine?
        ((complete oddNames dir.current "cat a" 5).accept "cat a" spaced) ≠
          some ⟨"cat", [operand]⟩) ∧
      tilde ∈ (complete oddNames dir.current "cat " 4).candidates ∧
      MadeFrom oddNames dir.current [] tilde "~" [] ∧
      Invocation.ofLine? ((complete oddNames dir.current "cat " 4).accept "cat " tilde) =
        some ⟨"cat", ["~"]⟩ ∧
      dir.resolve "~" ≠ .ofLocation [Text.encode "~"] := by
  intro dir spaced tilde
  have plain : oddNames.IsPlain := by decide +kernel
  have called : Invocation.ofLine?
      ((complete oddNames dir.current "cat a" 5).accept "cat a" spaced) =
        some ⟨"cat", ["a", "b"]⟩ := by
    decide +kernel
  refine ⟨plain.noLink, by decide +kernel,
    ⟨by decide +kernel, by decide +kernel, ⟨by decide +kernel, by decide +kernel⟩,
      by decide +kernel⟩, fun operand single => ?_, by decide +kernel,
    ⟨by decide +kernel, by decide +kernel, ⟨by decide +kernel, by decide +kernel⟩,
      by decide +kernel⟩, by decide +kernel, by decide +kernel⟩
  rw [called] at single
  cases single

end Completion

end LineShell
