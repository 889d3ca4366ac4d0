import LineShell.Proofs.Settings.Line
import LineShell.Proofs.Text.Utf8
import LineShell.Settings.Load

/-!
# What a settings file means

A settings file is read line by line, and each line makes at most one choice (`readLines_eq`). A choice
touches one setting only, so that each setting has what the last line chose for it, whatever stands
between (`Setting.isLast_iff`). Lines that make no choice can be left out, and lines that are about
different settings can change places. The errors are those of the refused lines, in their order.

The main result is `meansLastChoices`.
-/

namespace LineShell

open Assignment (Assigns Chooses HasPair IsSilent Refuses)

variable {line : List Char} {lines : List (List Char)} {settings : Settings}
  {assignment : Assignment}

/-! ## Settings one by one -/

/-- One of the settings, with the choices of a value for it. -/
structure Setting (α β : Type) where
  /-- The choice of a value. -/
  choose : α → Assignment
  /-- What settings have for it. -/
  read : Settings → β
  /-- The form in which a chosen value is kept. -/
  keep : α → β
  /-- A choice takes effect. -/
  read_assign : ∀ (settings : Settings) (value : α),
    read (settings.assign (choose value)) = keep value
  /-- Choices for other settings do not touch this one. -/
  read_assign_of_ne : ∀ (settings : Settings) (assignment : Assignment),
    (∀ value, assignment ≠ choose value) → read (settings.assign assignment) = read settings

namespace Setting

variable {α β : Type} {setting : Setting α β}

/-- Whether colours may be used. -/
def color : Setting Bool Bool where
  choose := .color
  read := Settings.color
  keep := id
  read_assign _ _ := rfl
  read_assign_of_ne _ assignment other := by
    cases assignment with
    | color on => exact absurd rfl (other on)
    | prompt => rfl
    | startDirectory => rfl

/-- The end of the prompt. -/
def prompt : Setting String String where
  choose := .prompt
  read := Settings.prompt
  keep := id
  read_assign _ _ := rfl
  read_assign_of_ne _ assignment other := by
    cases assignment with
    | color => rfl
    | prompt text => exact absurd rfl (other text)
    | startDirectory => rfl

/-- The directory to start in. -/
def startDirectory : Setting String (Option String) where
  choose := .startDirectory
  read := Settings.startDirectory
  keep := some
  read_assign _ _ := rfl
  read_assign_of_ne _ assignment other := by
    cases assignment with
    | color => rfl
    | prompt => rfl
    | startDirectory path => exact absurd rfl (other path)

/-- None of the lines makes a choice for a setting. -/
def IsUntouchedBy (setting : Setting α β) (lines : List (List Char)) : Prop :=
  ∀ line ∈ lines, ∀ value, ¬ Assigns line (setting.choose value)

/-- What the last choice for a setting leaves there. -/
inductive IsLast (setting : Setting α β) : List (List Char) → β → Prop
  /-- Where there is no choice, it is what it is from the start. -/
  | usual {lines : List (List Char)} :
    setting.IsUntouchedBy lines → IsLast setting lines (setting.read {})
  /-- Or else it is what a line chooses that no choice follows. -/
  | chosen (earlier : List (List Char)) {line : List Char} {later : List (List Char)} {value : α} :
    Assigns line (setting.choose value) → setting.IsUntouchedBy later →
    IsLast setting (earlier ++ line :: later) (setting.keep value)

end Setting

/-! ## Steps and runs -/

namespace Settings

/-- The settings after one more line. -/
def afterLine (settings : Settings) (line : List Char) : Settings :=
  match Assignment.ofLine line with
  | .ok (some assignment) => settings.assign assignment
  | _ => settings

/-- The report of a numbered line, if it is refused. -/
def report? (numbered : Nat × List Char) : Option (Nat × SettingsError) :=
  match Assignment.ofLine numbered.2 with
  | .error error => some (numbered.1, error)
  | _ => none

theorem afterLine_of_assigns (h : Assigns line assignment) :
    settings.afterLine line = settings.assign assignment := by
  rw [afterLine, Assignment.ofLine_of_assigns h]

theorem afterLine_of_forall_not (h : ∀ assignment, ¬ Assigns line assignment) :
    settings.afterLine line = settings := by
  unfold afterLine
  split
  · rename_i assignment read
    exact absurd (Assignment.ofLine_eq_some_iff.1 read) (h assignment)
  · rfl

theorem report?_eq_some_iff {number : Nat} {reported : Nat × SettingsError} :
    report? (number, line) = some reported ↔
      number = reported.1 ∧ Refuses line reported.2 := by
  rw [← Assignment.ofLine_eq_error_iff, report?]
  obtain ⟨other, error⟩ := reported
  split <;> simp_all

/-- Reading lines is a step for each line, and a report for each refused one. -/
theorem readLines_eq (settings : Settings) (numbered : List (Nat × List Char)) :
    settings.readLines numbered =
      ((numbered.map Prod.snd).foldl afterLine settings, numbered.filterMap report?) := by
  induction numbered generalizing settings with
  | nil => rfl
  | cons first rest ih =>
    obtain ⟨number, line⟩ := first
    rw [readLines, List.map_cons, List.foldl_cons, List.filterMap_cons, afterLine, report?]
    cases Assignment.ofLine line with
    | error error => simp only [ih]
    | ok choice =>
      cases choice with
      | none => simp only [ih]
      | some assignment => simp only [ih]

/-- Lines with their numbers, which start at one. -/
def numbered (lines : List (List Char)) : List (Nat × List Char) :=
  lines.zipIdx.map fun (line, index) => (index + 1, line)

theorem map_snd_numbered (lines : List (List Char)) : (numbered lines).map Prod.snd = lines := by
  rw [numbered, List.map_map]
  exact List.zipIdx_map_fst 0 lines

/-- The number of a line counts the lines before it. -/
theorem mem_numbered_iff {number : Nat} :
    (number, line) ∈ numbered lines ↔
      ∃ front back, lines = front ++ line :: back ∧ number = front.length + 1 := by
  simp only [numbered, List.mem_map, Prod.exists, Prod.mk.injEq]
  constructor
  · rintro ⟨_, index, mem, rfl, rfl⟩
    obtain ⟨bound, same⟩ := List.getElem?_eq_some_iff.1 (List.mk_mem_zipIdx_iff_getElem?.1 mem)
    refine ⟨lines.take index, lines.drop (index + 1), ?_, by simp; omega⟩
    rw [← same, List.getElem_cons_drop, List.take_append_drop]
  · rintro ⟨front, back, rfl, rfl⟩
    exact ⟨line, front.length, List.mk_mem_zipIdx_iff_getElem?.2 (by simp), rfl, rfl⟩

theorem pairwise_numbered (lines : List (List Char)) :
    (numbered lines).Pairwise fun one other => one.1 < other.1 := by
  have ascending : lines.zipIdx.Pairwise fun one other => one.2 < other.2 := by
    rw [← List.pairwise_map, List.zipIdx_map_snd]
    exact List.pairwise_lt_range'
  rw [numbered, List.pairwise_map]
  exact ascending.imp Nat.succ_lt_succ

end Settings

namespace Setting

variable {α β : Type} {setting : Setting α β} {kept : β}

theorem read_afterLine (untouched : ∀ value, ¬ Assigns line (setting.choose value)) :
    setting.read (settings.afterLine line) = setting.read settings := by
  by_cases chosen : ∃ assignment, Assigns line assignment
  · obtain ⟨assignment, assigns⟩ := chosen
    rw [Settings.afterLine_of_assigns assigns]
    exact setting.read_assign_of_ne _ _ fun value same => untouched value (same ▸ assigns)
  · rw [Settings.afterLine_of_forall_not (not_exists.1 chosen)]

/-- Lines that do not touch a setting leave it as it was. -/
theorem read_foldl (untouched : setting.IsUntouchedBy lines) :
    setting.read (lines.foldl Settings.afterLine settings) = setting.read settings := by
  induction lines generalizing settings with
  | nil => rfl
  | cons line rest ih =>
    rw [List.foldl_cons, ih fun other mem => untouched other (List.mem_cons_of_mem _ mem),
      read_afterLine (untouched line List.mem_cons_self)]

/-- A line that does not touch a setting changes nothing about its last choice. -/
theorem IsLast.concat (last : setting.IsLast lines kept)
    (untouched : ∀ value, ¬ Assigns line (setting.choose value)) :
    setting.IsLast (lines ++ [line]) kept := by
  have more {later : List (List Char)} (all : setting.IsUntouchedBy later) :
      setting.IsUntouchedBy (later ++ [line]) := by
    intro other mem
    rcases List.mem_append.1 mem with before | here
    · exact all other before
    · rwa [List.mem_singleton.1 here]
  cases last with
  | usual all => exact .usual (more all)
  | chosen earlier assigns all =>
    rw [List.append_assoc, List.cons_append]
    exact .chosen earlier assigns (more all)

/-- After lines are read, a setting has what the last of its choices leaves there. -/
theorem isLast_iff :
    setting.IsLast lines kept ↔ setting.read (lines.foldl Settings.afterLine {}) = kept := by
  constructor
  · rintro (untouched | ⟨earlier, assigns, untouched⟩)
    · exact read_foldl untouched
    · rw [List.foldl_append, List.foldl_cons, read_foldl untouched,
        Settings.afterLine_of_assigns assigns, setting.read_assign]
  · rintro rfl
    -- The lines are taken from the end, since a choice hides those before it.
    induction lines using List.reverseRecOn with
    | nil => exact .usual nofun
    | append_singleton front line ih =>
      rw [List.foldl_append, List.foldl_cons, List.foldl_nil]
      by_cases chosen : ∃ value, Assigns line (setting.choose value)
      · obtain ⟨value, assigns⟩ := chosen
        rw [Settings.afterLine_of_assigns assigns, setting.read_assign]
        exact .chosen front assigns nofun
      · rw [not_exists] at chosen
        rw [read_afterLine chosen]
        exact ih.concat chosen

end Setting

/-! ## Lines that can be left out or change places -/

/-- Some of the lines are kept, and those that are left out make no choice. -/
inductive LeavesOut : List (List Char) → List (List Char) → Prop
  | nil : LeavesOut [] []
  | keep (line : List Char) {lines kept : List (List Char)} :
    LeavesOut lines kept → LeavesOut (line :: lines) (line :: kept)
  | drop {line : List Char} {lines kept : List (List Char)} :
    (∀ assignment, ¬ Assigns line assignment) → LeavesOut lines kept → LeavesOut (line :: lines) kept

/-- Two lines have no key in common. -/
def HaveOtherKeys (one next : List Char) : Prop :=
  ∀ key word otherKey otherWord, HasPair one key word → HasPair next otherKey otherWord →
    key ≠ otherKey

namespace Settings

theorem foldl_of_leavesOut {kept : List (List Char)} (h : LeavesOut lines kept)
    (settings : Settings) : kept.foldl afterLine settings = lines.foldl afterLine settings := by
  induction h generalizing settings with
  | nil => rfl
  | keep line _ ih => exact ih (settings.afterLine line)
  | drop noChoice _ ih => rw [List.foldl_cons, afterLine_of_forall_not noChoice, ih]

/-- Choices that are made with different keys do not depend on their order. -/
theorem assign_comm {key word otherKey otherWord : String} {other : Assignment}
    (differ : key ≠ otherKey) (chooses : Chooses key word assignment)
    (alsoChooses : Chooses otherKey otherWord other) :
    (settings.assign assignment).assign other = (settings.assign other).assign assignment := by
  cases chooses <;> cases alsoChooses <;> first | rfl | exact absurd rfl differ

theorem afterLine_comm {next : List Char} (apart : HaveOtherKeys line next) :
    (settings.afterLine line).afterLine next = (settings.afterLine next).afterLine line := by
  -- Only two choices could get in each other's way.
  by_cases chosen : ∃ assignment, Assigns line assignment
  · by_cases alsoChosen : ∃ assignment, Assigns next assignment
    · obtain ⟨assignment, assigns⟩ := chosen
      obtain ⟨other, alsoAssigns⟩ := alsoChosen
      simp only [afterLine_of_assigns assigns, afterLine_of_assigns alsoAssigns]
      obtain ⟨key, word, pair, chooses⟩ := assigns
      obtain ⟨otherKey, otherWord, otherPair, alsoChooses⟩ := alsoAssigns
      exact assign_comm (apart key word otherKey otherWord pair otherPair) chooses alsoChooses
    · simp only [afterLine_of_forall_not (not_exists.1 alsoChosen)]
  · simp only [afterLine_of_forall_not (not_exists.1 chosen)]

/-! ## The file -/

/-- The lines of a settings file. -/
def linesOf (text : String) : List (List Char) :=
  Text.lines '\n' '\r' text.toList

theorem ofText_eq (text : String) :
    ofText text =
      ((linesOf text).foldl afterLine {}, (numbered (linesOf text)).filterMap report?) := by
  have read : ofText text = ({} : Settings).readLines (numbered (linesOf text)) := rfl
  rw [read, readLines_eq, map_snd_numbered]

/-- The settings are looked for in a file, and it holds a text. -/
structure IsFile (fs : FileSystem) (start : Location) (home : Option Path) (named : Option String)
    (source : SettingsSource) (text : String) : Prop where
  /-- This is where they are looked for. -/
  choose_eq : SettingsSource.choose home named = .ok source
  /-- The file can be read, and holds the text. -/
  read_eq : fs.readFrom start source.path = .ok (Text.encode text)

/-- What is logged of a file: its errors with the numbers of their lines, and that it is read. -/
def logOf (source : SettingsSource) (errors : List (Nat × SettingsError)) : List LogLine :=
  let shown := source.path.shown
  let warnings := errors.map fun (number, error) =>
    logLine .warn s!"{shown}:{number}: {error.message}"
  warnings ++ [logLine .debug s!"loaded config from {shown}"]

/-- The settings are those of the text of the file, and its errors are logged. -/
theorem load_of_isFile {fs : FileSystem} {start : Location} {home : Option Path}
    {named : Option String} {source : SettingsSource} {text : String}
    (h : IsFile fs start home named source text) :
    load fs start home named = (.ok (ofText text).1, logOf source (ofText text).2) := by
  -- What can be read is there, so that the file is not taken for a missing one.
  have present : (fs.findFrom start source.path .follow).isOk = true := by
    have read := h.read_eq
    unfold FileSystem.readFrom at read
    cases found : fs.findFrom start source.path .follow with
    | ok entry => rfl
    | error fault =>
      rw [found] at read
      cases read
  have decoded : Text.decode? (Text.encode text) = some text := by
    rw [Text.encode, Text.decode?_encodeChars, String.ofList_toList]
  simp only [load, h.choose_eq, loadFrom, present, h.read_eq, decoded, logOf, Bool.not_true,
    Bool.false_eq_true, if_false]

/-- A settings file means the last choice for each setting. -/
structure MeansLastChoices (text : String) : Prop where
  /-- Whether colours may be used is what the last choice for it leaves there. -/
  color_iff : ∀ on, Setting.color.IsLast (linesOf text) on ↔ (ofText text).1.color = on
  /-- So is the end of the prompt. -/
  prompt_iff : ∀ prompt, Setting.prompt.IsLast (linesOf text) prompt ↔
    (ofText text).1.prompt = prompt
  /-- So is the directory to start in. -/
  startDirectory_iff : ∀ path, Setting.startDirectory.IsLast (linesOf text) path ↔
    (ofText text).1.startDirectory = path
  /-- A line that makes no choice leaves any settings as they were. -/
  keeps : ∀ (settings : Settings) number, ∀ line ∈ linesOf text,
    (∀ assignment, ¬ Assigns line assignment) → (settings.readLines [(number, line)]).1 = settings
  /-- There is an error for each refused line, with its number. -/
  mem_errors_iff : ∀ number error, (number, error) ∈ (ofText text).2 ↔
    ∃ front line back, linesOf text = front ++ line :: back ∧ number = front.length + 1 ∧
      Refuses line error
  /-- The refused lines are those that say something and make no choice. -/
  refused_iff : ∀ front line back, linesOf text = front ++ line :: back →
    ((∃ error, (front.length + 1, error) ∈ (ofText text).2) ↔
      ¬ IsSilent line ∧ ∀ assignment, ¬ Assigns line assignment)
  /-- The errors are in the order of their lines, and no line has two. -/
  ascending : (ofText text).2.Pairwise fun one other => one.1 < other.1
  /-- Lines that make no choice can be left out. -/
  leaveOut : ∀ other, LeavesOut (linesOf text) (linesOf other) → (ofText other).1 = (ofText text).1
  /-- Neighbours with different keys can change places. -/
  swap : ∀ other front one next back, linesOf text = front ++ one :: next :: back →
    linesOf other = front ++ next :: one :: back → HaveOtherKeys one next →
    (ofText other).1 = (ofText text).1
  /-- A file with the text is loaded so, and each error is logged as a warning. -/
  load_eq : ∀ fs start home named source, IsFile fs start home named source text →
    load fs start home named = (.ok (ofText text).1, logOf source (ofText text).2)

/-- The errors of a file are those of its refused lines. -/
theorem mem_errors_iff {text : String} {number : Nat} {error : SettingsError} :
    (number, error) ∈ (ofText text).2 ↔
      ∃ front line back, linesOf text = front ++ line :: back ∧ number = front.length + 1 ∧
        Refuses line error := by
  simp only [ofText_eq, List.mem_filterMap, Prod.exists, report?_eq_some_iff]
  constructor
  · rintro ⟨_, line, mem, rfl, refuses⟩
    obtain ⟨front, back, split, counted⟩ := mem_numbered_iff.1 mem
    exact ⟨front, line, back, split, counted, refuses⟩
  · rintro ⟨front, line, back, split, counted, refuses⟩
    exact ⟨number, line, mem_numbered_iff.2 ⟨front, back, split, counted⟩, rfl, refuses⟩

/-- Whatever is written in a settings file, it means its last choices. -/
theorem meansLastChoices (text : String) : MeansLastChoices text where
  color_iff on := by
    rw [ofText_eq]
    exact Setting.isLast_iff
  prompt_iff prompt := by
    rw [ofText_eq]
    exact Setting.isLast_iff
  startDirectory_iff path := by
    rw [ofText_eq]
    exact Setting.isLast_iff
  keeps settings number line _ noChoice := by
    rw [readLines_eq]
    exact afterLine_of_forall_not noChoice
  mem_errors_iff number error := mem_errors_iff
  refused_iff front line back split := by
    rw [← Assignment.exists_refuses_iff]
    refine exists_congr fun error => ?_
    rw [mem_errors_iff]
    constructor
    -- The line with the number is this one.
    · rintro ⟨_, other, _, same, counted, refuses⟩
      obtain ⟨-, rest⟩ := List.append_inj (split.symm.trans same) (by omega)
      rwa [(List.cons.inj rest).1]
    · exact fun refuses => ⟨front, line, back, split, rfl, refuses⟩
  ascending := by
    rw [ofText_eq]
    refine (pairwise_numbered _).filterMap report? fun one next less reported isOne later isNext => ?_
    -- A report has the number of its line.
    rwa [← (report?_eq_some_iff.1 isOne).1, ← (report?_eq_some_iff.1 isNext).1]
  leaveOut other kept := by
    rw [ofText_eq, ofText_eq]
    exact foldl_of_leavesOut kept {}
  swap other front one next back split swapped apart := by
    rw [ofText_eq, ofText_eq, split, swapped]
    simp only [List.foldl_append, List.foldl_cons, afterLine_comm apart]
  load_eq fs start home named source file := load_of_isFile file

/-- A later line that is refused does not undo an earlier choice. -/
example : ofText "color = No\r\nnonsense\r\ncolor = maybe" =
    (⟨false, "> ", none⟩, [(2, .malformed "nonsense"), (3, .invalidValue "color" "maybe")]) := by
  decide +kernel

end Settings

end LineShell
