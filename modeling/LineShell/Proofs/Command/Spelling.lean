import Mathlib.Data.List.Forall2
import LineShell.Proofs.Containment
import LineShell.Proofs.Output

/-!
# How operands are spelled

Commands on files look at the paths that their operands denote and not at how these are written. Two
calls of a command whose operands denote the same paths, one by one, do the same to the files and to
the working directory, succeed or fail alike and write the same, but that a message names an operand
as it was written (`respelled_call`). Where the operands stand in a message is said by
`Failure.words`: the words of the message, between which the operands are put
(`message_eq_weave`).

What is done to one target is compared step by step (`Work.Respelled`): the steps ask the same of the
same files, so they find the same, and where one fails the other does, with the same words.
-/

namespace LineShell

/-! ## Messages -/

/-- Words with operands between them. -/
def weave : List String → List String → String
  | [], _ => ""
  | word :: words, [] => word ++ weave words []
  | word :: words, operand :: operands => word ++ operand ++ weave words operands

namespace Failure

/-- The operands that a message names, in the order in which it does. -/
def operands : Failure → List String
  | enter directory => [directory]
  | enterHome | list _ _ => []
  | makeDirectory directory _ | removeDirectory directory _ => [directory]
  | createFile file _ | removeFile file _ | read file _ => [file]
  | copy source (.takenByDirectory destination) => [source, destination]
  | copy source _ => [source]
  | sameFile source destination | copyIntoItself source destination => [source, destination]

/-- The words of a message before, between and behind its operands. -/
def words : Failure → List String
  | enter _ => ["cd: cannot change directory '", "': No such directory"]
  | enterHome => ["cd: cannot change directory to home directory: No such directory"]
  | list command directory =>
    [s!"{command.name}: failed to list contents of '{directory.shown}': Permission denied"]
  | makeDirectory _ why => ["mkdir: cannot create directory '", "': " ++ why.message]
  | removeDirectory _ why => ["rmdir: failed to remove '", "': " ++ why.message]
  | createFile _ why => ["touch: cannot create file '", "': " ++ why.message]
  | removeFile _ why => ["rm: cannot remove '", "': " ++ why.message]
  | read _ why => ["cat: ", ": " ++ why.message]
  | copy _ (.takenByDirectory _) =>
    ["cp: failed to copy '", "': " ++ "'", "' already exists as a directory"]
  | copy _ why => ["cp: failed to copy '", "': " ++ why.message]
  | sameFile _ _ => ["cp: '", "' and '", "' are the same file"]
  | copyIntoItself _ _ => ["cp: cannot copy a directory, '", "', into itself, '", "'"]

private theorem eq_weave_of_word (front operand back : String) :
    front ++ operand ++ back = weave [front, back] [operand] := by
  simp [weave, String.append_assoc]

private theorem eq_weave_of_reason (front operand middle reason : String) :
    front ++ operand ++ middle ++ reason = weave [front, middle ++ reason] [operand] := by
  simp [weave, String.append_assoc]

private theorem eq_weave_of_two (front first middle second back : String) :
    front ++ first ++ middle ++ second ++ back = weave [front, middle, back] [first, second] := by
  simp [weave, String.append_assoc]

private theorem eq_weave_of_quoted (front first middle opening second back : String) :
    front ++ first ++ middle ++ (opening ++ second ++ back) =
      weave [front, middle ++ opening, back] [first, second] := by
  simp [weave, String.append_assoc]

/-- A message is its words with the operands between them. -/
theorem message_eq_weave (failure : Failure) :
    failure.message = weave failure.words failure.operands := by
  cases failure with
  | enter directory => exact eq_weave_of_word _ _ _
  | enterHome => exact (String.append_empty ..).symm
  | list command directory => exact (String.append_empty ..).symm
  | makeDirectory directory why => exact eq_weave_of_reason _ _ _ _
  | removeDirectory directory why => exact eq_weave_of_reason _ _ _ _
  | createFile file why => exact eq_weave_of_reason _ _ _ _
  | removeFile file why => exact eq_weave_of_reason _ _ _ _
  | read file why => exact eq_weave_of_reason _ _ _ _
  | copy source why =>
    cases why with
    | takenByDirectory destination => exact eq_weave_of_quoted _ _ _ _ _ _
    | _ => exact eq_weave_of_reason _ _ _ _
  | sameFile source destination => exact eq_weave_of_two _ _ _ _ _
  | copyIntoItself source destination => exact eq_weave_of_two _ _ _ _ _

/-- Two failures whose messages have the same words between related operands. -/
structure Respelled (R : String → String → Prop) (first second : Failure) : Prop where
  /-- The words are the same. -/
  words : ∃ words, first.message = weave words first.operands ∧
    second.message = weave words second.operands
  /-- The operands are related one by one. -/
  operands : List.Forall₂ R first.operands second.operands

theorem Respelled.of_words {R : String → String → Prop} {first second : Failure}
    (same : first.words = second.words)
    (operands : List.Forall₂ R first.operands second.operands) : first.Respelled R second :=
  ⟨⟨first.words, message_eq_weave first, same ▸ message_eq_weave second⟩, operands⟩

end Failure

/-! ## Runs -/

variable {R : String → String → Prop}

/-- Pieces of output that are the same, or reports of failures that name related operands. -/
inductive Segment.Respelled (R : String → String → Prop) : Segment → Segment → Prop
  /-- The same piece. -/
  | same (text : Segment) : Respelled R text text
  /-- Reports that differ in the operands that they name. -/
  | report {first second : Failure} (h : first.Respelled R second) :
      Respelled R (.report (.failed first)) (.report (.failed second))

/-- Effects that are the same, or write pieces of output that are the same but for operands. -/
inductive Effect.Respelled (R : String → String → Prop) : Effect → Effect → Prop
  /-- The same effect. -/
  | same (effect : Effect) : Respelled R effect effect
  /-- Reports that differ in the operands that they name. -/
  | report {first second : Failure} (h : first.Respelled R second) :
      Respelled R first.reported second.reported

/-- Work that is done with the same result, or fails with failures that name related operands. -/
inductive AlikeButForSpelling (R : String → String → Prop) {α : Type} :
    Except Failure α → Except Failure α → Prop
  /-- Both are done. -/
  | ok (result : α) : AlikeButForSpelling R (.ok result) (.ok result)
  /-- Both fail. -/
  | error {first second : Failure} (h : first.Respelled R second) :
      AlikeButForSpelling R (.error first) (.error second)

theorem AlikeButForSpelling.called {first second : Except Failure Flow}
    (h : AlikeButForSpelling R first second) :
    (∃ flow, first.mapError CommandError.failed = .ok flow ∧
      second.mapError CommandError.failed = .ok flow) ∨
    ∃ failure other : Failure, failure.Respelled R other ∧
      first.mapError .failed = .error (CommandError.failed failure) ∧
      second.mapError .failed = .error (CommandError.failed other) := by
  cases h with
  | ok flow => exact .inl ⟨flow, rfl, rfl⟩
  | error same => exact .inr ⟨_, _, same, rfl, rfl⟩

/-- Runs with the same effects and the same result, but for operands in messages. -/
structure Run.Respelled (R : String → String → Prop) (first second : Run) : Prop where
  /-- The effects are the same one by one. -/
  effects : List.Forall₂ (Effect.Respelled R) first.effects second.effects
  /-- What follows is the same, or why they failed. -/
  result : AlikeButForSpelling R first.result second.result

theorem respelled_refl (effects : List Effect) : List.Forall₂ (Effect.Respelled R) effects effects :=
  List.forall₂_same.2 fun effect _ => .same effect

namespace Session

variable {session : Session} {first second : List Effect}

theorem afterAll_respelled (h : List.Forall₂ (Effect.Respelled R) first second) :
    session.afterAll first = session.afterAll second := by
  induction h generalizing session with
  | nil => rfl
  | cons head _ ih =>
    cases head with
    | same effect => exact ih
    | report _ => exact ih

end Session

theorem segments_respelled {first second : List Effect}
    (h : List.Forall₂ (Effect.Respelled R) first second) :
    List.Forall₂ (Segment.Respelled R) (segments first) (segments second) := by
  induction h with
  | nil => exact .nil
  | @cons effect _ _ _ head _ ih =>
    cases head with
    | same =>
      cases effect with
      | write text => exact .cons (.same text) ih
      | _ => exact ih
    | report same => exact .cons (.report same) ih

/-! ## Work -/

/-- Work of which the same is done among the same files, or which fails with failures that name
related operands. -/
def Work.Respelled (R : String → String → Prop) {α : Type} (first second : Work α) : Prop :=
  ∀ now,
    (∃ result later, first.run now = .ok result later ∧ second.run now = .ok result later) ∨
    ∃ failure other later, first.run now = .error failure later ∧
      second.run now = .error other later ∧ failure.Respelled R other

namespace Work

variable {α β : Type} {first second : Work α} {next rest : α → Work β} {failure other : Failure}

theorem NeverFails.respelled (never : NeverFails first) : first.Respelled R first := by
  intro now
  obtain ⟨result, later, ran⟩ := never now
  exact .inl ⟨result, later, ran, ran⟩

theorem respelled_throw (h : failure.Respelled R other) :
    Work.Respelled R (throw failure : Work α) (throw other) :=
  fun now => .inr ⟨failure, other, now, rfl, rfl, h⟩

theorem Respelled.bind (same : first.Respelled R second)
    (onward : ∀ result, (next result).Respelled R (rest result)) :
    (first >>= next).Respelled R (second >>= rest) := by
  intro now
  simp only [EStateM.run_bind]
  obtain ⟨result, later, ran, otherRan⟩ | ⟨failure, other, later, failed, otherFailed, alike⟩ :=
    same now
  · rw [ran, otherRan]
    exact onward result later
  · rw [failed, otherFailed]
    exact .inr ⟨failure, other, later, rfl, rfl, alike⟩

theorem respelled_ensure (holds : Bool) (h : failure.Respelled R other) :
    (ensure holds failure).Respelled R (ensure holds other) := by
  cases holds with
  | true => exact (neverFails_pure ()).respelled
  | false => exact respelled_throw h

theorem respelled_known (value : Option α) (h : failure.Respelled R other) :
    (known value failure).Respelled R (known value other) := by
  cases value with
  | some value => exact (neverFails_pure value).respelled
  | none => exact respelled_throw h

theorem respelled_require (calls : Calls α) {refuse others : Fault → Failure}
    (h : ∀ fault, (refuse fault).Respelled R (others fault)) :
    (require calls refuse).Respelled R (require calls others) := by
  refine (neverFails_attempt calls).respelled.bind fun result => ?_
  cases result with
  | ok answer => exact (neverFails_pure answer).respelled
  | error fault => exact respelled_throw (h fault)

/-- A command that does work runs alike. -/
theorem Respelled.ofWork {first second : Work Unit} (h : first.Respelled R second)
    (fs : FileSystem) : (Run.ofWork first fs).Respelled R (Run.ofWork second fs) := by
  obtain ⟨⟨⟩, later, ran, otherRan⟩ | ⟨failure, other, later, failed, otherFailed, alike⟩ :=
    h ⟨fs, []⟩
  · rw [Run.ofWork, ran, Run.ofWork, otherRan]
    exact ⟨respelled_refl _, .ok _⟩
  · rw [Run.ofWork, failed, Run.ofWork, otherFailed]
    exact ⟨respelled_refl _, .error alike⟩

end Work

namespace Command

open Work

/-! ## Commands -/

/-- The same command with related operands. -/
inductive Respelled (R : String → String → Prop) : Command → Command → Prop
  | cat {files others : List String} (h : List.Forall₂ R files others) :
      Respelled R (.cat files) (.cat others)
  | cdHome : Respelled R (.cd none) (.cd none)
  | cd {directory other : String} (h : R directory other) :
      Respelled R (.cd (some directory)) (.cd (some other))
  | cp (recursive : Bool) {source destination otherSource otherDestination : String}
      (hs : R source otherSource) (hd : R destination otherDestination) :
      Respelled R (.cp recursive source destination) (.cp recursive otherSource otherDestination)
  | mkdir {directories others : List String} (h : List.Forall₂ R directories others) :
      Respelled R (.mkdir directories) (.mkdir others)
  | rm {file other : String} (h : R file other) : Respelled R (.rm file) (.rm other)
  | rmdir {directory other : String} (h : R directory other) :
      Respelled R (.rmdir directory) (.rmdir other)
  | touch {file other : String} (h : R file other) : Respelled R (.touch file) (.touch other)

variable {session : Session} {dir : WorkingDirectory} {fs : FileSystem} {a b c d : String}

/-- The home directory is denoted by no operand. -/
theorem respelled_enterHome : (enterDirectory dir none).Respelled R (enterDirectory dir none) :=
  have refused : Failure.enterHome.Respelled R .enterHome := .of_words rfl .nil
  (respelled_known _ refused).bind fun _ =>
  (respelled_require _ fun _ => refused).bind fun _ =>
  ((neverFails_perform _).bind fun _ => neverFails_perform _).respelled

section OneOperand

variable (same : dir.resolve a = dir.resolve b) (h : R a b)

include same h

theorem respelled_enterDirectory :
    (enterDirectory dir (some a)).Respelled R (enterDirectory dir (some b)) := by
  have refused : (Failure.enter a).Respelled R (.enter b) := .of_words rfl (.cons h .nil)
  unfold enterDirectory
  rw [enteredPath?, enteredPath?, same]
  exact (respelled_known _ refused).bind fun _ =>
    (respelled_require _ fun _ => refused).bind fun _ =>
    ((neverFails_perform _).bind fun _ => neverFails_perform _).respelled

theorem respelled_createFile : (createFile dir a).Respelled R (createFile dir b) := by
  unfold createFile
  rw [same]
  refine (neverFails_attempt _).respelled.bind fun result => ?_
  cases result with
  | ok _ => exact (neverFails_perform _).respelled
  | error fault =>
    simp only
    split
    · exact (neverFails_perform _).respelled
    · exact respelled_throw (.of_words rfl (.cons h .nil))

theorem respelled_removeFile : (removeFile dir a).Respelled R (removeFile dir b) := by
  have refused : ∀ why, (Failure.removeFile a why).Respelled R (.removeFile b why) :=
    fun _ => .of_words rfl (.cons h .nil)
  unfold removeFile
  rw [same]
  exact (respelled_require _ fun _ => refused _).bind fun _ =>
    (respelled_ensure _ (refused _)).bind fun _ =>
    (respelled_require _ fun _ => refused _).bind fun _ =>
    (neverFails_perform _).respelled

theorem respelled_makeDirectory : (makeDirectory dir a).Respelled R (makeDirectory dir b) := by
  have refused : ∀ why, (Failure.makeDirectory a why).Respelled R (.makeDirectory b why) :=
    fun _ => .of_words rfl (.cons h .nil)
  unfold makeDirectory
  rw [same]
  exact (neverFails_attempt _).respelled.bind fun _ =>
    (respelled_ensure _ (refused _)).bind fun _ =>
    (respelled_require _ fun _ => refused _).bind fun _ =>
    (neverFails_perform _).respelled

end OneOperand

theorem respelled_removeDirectory (path : Path) (h : R a b) :
    (removeDirectory dir path a).Respelled R (removeDirectory dir path b) :=
  have refused : ∀ why, (Failure.removeDirectory a why).Respelled R (.removeDirectory b why) :=
    fun _ => .of_words rfl (.cons h .nil)
  (respelled_require _ fun _ => refused _).bind fun _ =>
  (respelled_ensure _ (refused _)).bind fun _ =>
  (respelled_ensure _ (refused _)).bind fun _ =>
  (respelled_require _ fun _ => refused _).bind fun _ =>
  (respelled_ensure _ (refused _)).bind fun _ =>
  (respelled_require _ fun _ => refused _).bind fun _ =>
  (neverFails_perform _).respelled

theorem respelled_printFile (same : session.dir.resolve a = session.dir.resolve b) (h : R a b) :
    List.Forall₂ (Effect.Respelled R) (printFile session a) (printFile session b) := by
  unfold printFile
  rw [same]
  split
  · exact respelled_refl _
  · exact .cons (.report (.of_words rfl (.cons h .nil))) .nil

/-- The reasons for which a copy is refused name no operand, apart from one. -/
theorem respelled_copy {why : Reason} (h : R a b) (named : ∀ operand, why ≠ .takenByDirectory operand) :
    (Failure.copy a why).Respelled R (.copy b why) := by
  cases why with
  | takenByDirectory operand => exact absurd rfl (named operand)
  | _ => exact .of_words rfl (.cons h .nil)

theorem ofFault_ne_takenByDirectory (fault : Fault) (operand : String) :
    Reason.ofFault fault ≠ .takenByDirectory operand := by
  unfold Reason.ofFault
  split <;> simp

section TwoOperands

variable (source : session.dir.resolve a = session.dir.resolve b)
  (destination : session.dir.resolve c = session.dir.resolve d) (hs : R a b) (hd : R c d)

include source destination hs hd

theorem respelled_copyFile :
    (copyFile session.dir a c).Respelled R (copyFile session.dir b d) := by
  have refused : ∀ fault, (Failure.copy a (.ofFault fault)).Respelled R (.copy b (.ofFault fault)) :=
    fun fault => respelled_copy hs (ofFault_ne_takenByDirectory fault)
  have isDirectory : (Failure.copy a .needsRecursive).Respelled R (.copy b .needsRecursive) :=
    .of_words rfl (.cons hs .nil)
  have taken : (Failure.copy a (.takenByDirectory c)).Respelled R (.copy b (.takenByDirectory d)) :=
    .of_words rfl (.cons hs (.cons hd .nil))
  have itself : (Failure.sameFile a c).Respelled R (.sameFile b d) :=
    .of_words rfl (.cons hs (.cons hd .nil))
  unfold copyFile
  rw [source, destination]
  exact (respelled_require _ refused).bind fun ⟨_, _⟩ =>
    (respelled_ensure _ isDirectory).bind fun _ =>
    (neverFails_ask _).respelled.bind fun _ =>
    (respelled_ensure _ taken).bind fun _ =>
    (neverFails_ask _).respelled.bind fun _ =>
    (respelled_ensure _ itself).bind fun _ =>
    (respelled_require _ refused).bind fun _ =>
    (neverFails_perform _).respelled

theorem respelled_copyDirectory :
    (copyDirectory session a c).Respelled R (copyDirectory session b d) := by
  have refused : ∀ fault, (Failure.copy a (.ofFault fault)).Respelled R (.copy b (.ofFault fault)) :=
    fun fault => respelled_copy hs (ofFault_ne_takenByDirectory fault)
  unfold copyDirectory
  rw [source, destination]
  simp only
  split
  · exact ⟨.nil, .error (refused _)⟩
  · split
    · exact ⟨.nil, .error (.of_words rfl (.cons hs (.cons hd .nil)))⟩
    · split
      · exact ⟨respelled_refl _, .error (refused _)⟩
      · exact ⟨respelled_refl _, .ok _⟩
  · exact ⟨.nil, .error (.of_words rfl (.cons hs .nil))⟩

end TwoOperands

theorem respelled_makeDirectories {operands others : List String}
    (same : ∀ a b, R a b → dir.resolve a = dir.resolve b) (h : List.Forall₂ R operands others) :
    List.Forall₂ (Effect.Respelled R) (makeDirectories dir fs operands)
      (makeDirectories dir fs others) := by
  -- What one operand leads to is what the other does, and the rest finds the same files.
  induction h generalizing fs with
  | nil => exact .nil
  | @cons operand other _ _ related _ ih =>
    have alike := respelled_makeDirectory (same operand other related) related ⟨fs, []⟩
    simp only [makeDirectories, forEach] at ih ⊢
    obtain ⟨⟨⟩, later, ran, otherRan⟩ | ⟨failure, other, later, failed, otherFailed, related⟩ := alike
    · rw [ran, otherRan]
      exact List.rel_append (respelled_refl later.effects) ih
    · rw [failed, otherFailed]
      exact List.rel_append (respelled_refl later.effects) (.cons (.report related) ih)

/-- A command with operands that denote the same paths runs alike. -/
theorem Respelled.run {first second : Command} (h : first.Respelled R second)
    (same : ∀ a b, R a b → session.dir.resolve a = session.dir.resolve b) :
    (first.run session).Respelled R (second.run session) := by
  cases h with
  | @cat files others related =>
    refine ⟨?_, .ok _⟩
    change List.Forall₂ _ (files.flatMap _) (others.flatMap _)
    induction related with
    | nil => exact .nil
    | cons head _ ih =>
      exact List.rel_append (respelled_printFile (same _ _ head) head) ih
  | cdHome => exact respelled_enterHome.ofWork _
  | cd related => exact (respelled_enterDirectory (same _ _ related) related).ofWork _
  | cp recursive source destination =>
    cases recursive with
    | false =>
      exact (respelled_copyFile (same _ _ source) (same _ _ destination) source destination).ofWork _
    | true =>
      exact respelled_copyDirectory (same _ _ source) (same _ _ destination) source destination
  | mkdir related => exact ⟨respelled_makeDirectories same related, .ok _⟩
  | rm related => exact (respelled_removeFile (same _ _ related) related).ofWork _
  | rmdir related =>
    rw [Command.run, Command.run, same _ _ related]
    exact (respelled_removeDirectory _ related).ofWork _
  | touch related => exact (respelled_createFile (same _ _ related) related).ofWork _

/-! ## Reading -/

theorem respelled_of_readCopy {operands others : List String} {first second : Command}
    (reads : readCopy operands = .ok first) (otherReads : readCopy others = .ok second)
    (h : List.Forall₂ R operands others) : first.Respelled R second := by
  -- There are as many operands on both sides, so the flag stands on both or on neither.
  match h with
  | .nil => cases reads
  | .cons _ .nil =>
    simp only [readCopy] at reads
    split_ifs at reads
  | .cons source (.cons destination .nil) =>
    simp only [readCopy] at reads otherReads
    split_ifs at reads otherReads
    cases reads
    cases otherReads
    exact .cp false source destination
  | .cons _ (.cons source (.cons destination .nil)) =>
    simp only [readCopy] at reads otherReads
    split_ifs at reads otherReads
    cases reads
    cases otherReads
    exact .cp true source destination
  | .cons _ (.cons _ (.cons _ (.cons _ _))) => cases reads

end Command

/-- The commands whose operands are paths, but for the flag of a copy. -/
def Builtin.takesPaths : Builtin → Bool
  | cat | cd | cp | mkdir | rm | rmdir | touch => true
  | echo | exit | help | history | ls | pwd => false

namespace Command

/-- Related operands are read as the same command. -/
theorem respelled_of_read {builtin : Builtin} {operands others : List String}
    {first second : Command} (takesPaths : builtin.takesPaths = true)
    (noStar : builtin = .rmdir → everyOperand ∉ operands ∧ everyOperand ∉ others)
    (reads : read builtin operands = .ok first) (otherReads : read builtin others = .ok second)
    (h : List.Forall₂ R operands others) : first.Respelled R second := by
  cases builtin with
  | cat =>
    match h, reads, otherReads with
    | .cons one .nil, rfl, rfl => exact .cat (.cons one .nil)
    | .cons one (.cons two .nil), rfl, rfl => exact .cat (.cons one (.cons two .nil))
  | cd =>
    match h, reads, otherReads with
    | .nil, rfl, rfl => exact .cdHome
    | .cons one .nil, rfl, rfl => exact .cd one
  | cp => exact respelled_of_readCopy reads otherReads h
  | mkdir =>
    simp only [read] at reads otherReads
    split_ifs at reads otherReads
    cases reads
    cases otherReads
    exact .mkdir h
  | rm =>
    match h, reads, otherReads with
    | .cons one .nil, rfl, rfl => exact .rm one
  | rmdir =>
    obtain ⟨plain, otherPlain⟩ := noStar rfl
    match h with
    | .nil => cases reads
    | .cons one .nil =>
      simp only [read, if_neg (Ne.symm (List.ne_of_not_mem_cons plain))] at reads
      simp only [read, if_neg (Ne.symm (List.ne_of_not_mem_cons otherPlain))] at otherReads
      cases reads
      cases otherReads
      exact .rmdir one
    | .cons _ (.cons _ _) => cases reads
  | touch =>
    match h, reads, otherReads with
    | .cons one .nil, rfl, rfl => exact .touch one
  | _ => cases takesPaths

end Command

/-! ## Calls -/

namespace Session

/-- Two calls that do and tell the same, but that messages name related operands. -/
structure CalledAlike (R : String → String → Prop) (session : Session)
    (first second : List Effect × Except CommandError Flow) : Prop where
  /-- What they do is the same one by one, up to reports. -/
  effects : List.Forall₂ (Effect.Respelled R) first.1 second.1
  /-- Where the output takes all text, they leave the same files and the same working directory. -/
  left (palette : Palette) : (deliver palette .unlimited session first.1).session =
    (deliver palette .unlimited session second.1).session
  /-- They write the same pieces, up to reports. -/
  written (palette : Palette) : ∃ pieces others : List Segment,
    List.Forall₂ (Segment.Respelled R) pieces others ∧
      (deliver palette .unlimited session first.1).written =
        pieces.flatMap (Segment.render palette) ∧
      (deliver palette .unlimited session second.1).written =
        others.flatMap (Segment.render palette)
  /-- Both succeed, or both fail and are told to have failed in the same words. -/
  result : (∃ flow, first.2 = .ok flow ∧ second.2 = .ok flow) ∨
    ∃ failure other : Failure, failure.Respelled R other ∧ first.2 = .error (.failed failure) ∧
      second.2 = .error (.failed other)

variable {session : Session} {builtin : Builtin} {operands others : List String}
  {first second : Command}

theorem calledAlike_of_respelled {invocation other : Invocation}
    (asked : Session.command invocation = .ok first) (otherAsked : Session.command other = .ok second)
    (alike : (first.run session).Respelled R (second.run session)) :
    CalledAlike R session (session.call invocation) (session.call other) := by
  rw [call_of_command asked, call_of_command otherAsked]
  exact {
    effects := alike.effects
    left := fun palette => by
      rw [session_deliver_unlimited, session_deliver_unlimited, afterAll_respelled alike.effects]
    written := fun palette => ⟨_, _, segments_respelled alike.effects,
      written_deliver_unlimited palette session _, written_deliver_unlimited palette session _⟩
    result := alike.result.called }

/-- Calls with operands that denote the same paths do the same, and tell the same but that messages
name the operands as they are written. The flag of a copy stands first on both sides or on neither,
for otherwise only one of the two would fit the command. -/
theorem respelled_call (session : Session) (builtin : Builtin) (takesPaths : builtin.takesPaths = true)
    (asked : Session.command ⟨builtin.name, operands⟩ = .ok first)
    (otherAsked : Session.command ⟨builtin.name, others⟩ = .ok second)
    (noStar : builtin = .rmdir → Command.everyOperand ∉ operands ∧ Command.everyOperand ∉ others)
    (same : List.Forall₂ (fun operand other => session.dir.resolve operand =
      session.dir.resolve other) operands others) :
    CalledAlike (fun operand other => (operand, other) ∈ operands.zip others) session
      (session.call ⟨builtin.name, operands⟩) (session.call ⟨builtin.name, others⟩) := by
  obtain ⟨length, denotes⟩ := List.forall₂_iff_zip.1 same
  have placed : List.Forall₂ (fun operand other => (operand, other) ∈ operands.zip others)
      operands others :=
    List.forall₂_iff_zip.2 ⟨length, id⟩
  exact calledAlike_of_respelled asked otherAsked
    ((Command.respelled_of_read takesPaths noStar (command_name_eq_ok_iff.1 asked)
      (command_name_eq_ok_iff.1 otherAsked) placed).run fun _ _ mem => denotes mem)

theorem respelled_call_emptyRoot :
    Builtin.takesPaths .mkdir = true ∧
      Session.command ⟨Builtin.mkdir.name, ["d", "./d/"]⟩ = .ok (.mkdir ["d", "./d/"]) ∧
      Session.command ⟨Builtin.mkdir.name, ["/x/../d", "/d"]⟩ = .ok (.mkdir ["/x/../d", "/d"]) ∧
      List.Forall₂ (fun operand other => emptyRoot.dir.resolve operand =
        emptyRoot.dir.resolve other) ["d", "./d/"] ["/x/../d", "/d"] ∧
      (deliver .plain .unlimited emptyRoot (emptyRoot.call ⟨"mkdir", ["d", "./d/"]⟩).1).written =
        Text.encode "mkdir: cannot create directory './d/': Already exists\n" ∧
      CalledAlike (fun operand other => (operand, other) ∈ [("d", "/x/../d"), ("./d/", "/d")])
        emptyRoot (emptyRoot.call ⟨"mkdir", ["d", "./d/"]⟩)
        (emptyRoot.call ⟨"mkdir", ["/x/../d", "/d"]⟩) := by
  have asked : Session.command ⟨Builtin.mkdir.name, ["d", "./d/"]⟩ =
      .ok (.mkdir ["d", "./d/"]) := by
    decide +kernel
  have otherAsked : Session.command ⟨Builtin.mkdir.name, ["/x/../d", "/d"]⟩ =
      .ok (.mkdir ["/x/../d", "/d"]) := by
    decide +kernel
  have same : List.Forall₂ (fun operand other => emptyRoot.dir.resolve operand =
      emptyRoot.dir.resolve other) ["d", "./d/"] ["/x/../d", "/d"] :=
    .cons (by decide +kernel) (.cons (by decide +kernel) .nil)
  exact ⟨rfl, asked, otherAsked, same, by decide +kernel,
    respelled_call emptyRoot .mkdir rfl asked otherAsked (by simp) same⟩

end Session

end LineShell
