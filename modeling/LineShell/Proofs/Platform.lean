import LineShell.Platform.Unix
import LineShell.Proofs.Text.Lines

/-!
# What the program relies on

A platform is free to do what it likes. Two assumptions are all that the properties of the program's
runs need:

- `Platform.ReadsLines`: lines can be read, and a text on the standard input is read line by line,
  with nothing written in between;
- `Platform.FiltersLogOnly`: the filter for the log changes nothing but the log.

The usual platform meets both, the first one where its terminal takes no prompts
(`readsLines_unix`, `filtersLogOnly_unix`).
-/

namespace LineShell

open Palette (Environment)

namespace Platform

/-- Lines can be read on a platform, and those of a text are read as they are. -/
structure ReadsLines (platform : Platform) (env : Environment) : Prop where
  /-- There is an editor for lines. -/
  opens : platform.openEditor env = .ok ()
  /-- Interrupts are handled. -/
  handles : platform.handleInterrupts = .ok ()
  /-- No prompts are written. -/
  noPrompt : ∀ text, platform.prompt env text = []
  /-- Where nothing is taken back, each line of a text is read, without what ends it. -/
  readings_encode : ∀ text, Text.backspace ∉ text.toList →
    platform.readings env (Text.encode text) = (Text.textLines text).map Reading.line

/-- The variable that filters the log. -/
def filterVariable : String := "RUST_LOG"

/-- Two environments agree on all variables but the one that filters the log. -/
def AgreeButForFilter (env other : Environment) : Prop :=
  ∀ name, name ≠ filterVariable → other name = env name

/-- Nothing but the log depends on the filter for it. -/
structure FiltersLogOnly (platform : Platform) : Prop where
  home_eq : ∀ env other, AgreeButForFilter env other → platform.home other = platform.home env
  styling_eq : ∀ env other, AgreeButForFilter env other →
    platform.styling other = platform.styling env
  openEditor_eq : ∀ env other, AgreeButForFilter env other →
    platform.openEditor other = platform.openEditor env
  prompt_eq : ∀ env other, AgreeButForFilter env other →
    platform.prompt other = platform.prompt env
  readings_eq : ∀ env other, AgreeButForFilter env other →
    platform.readings other = platform.readings env

/-- Where lines are read as they are, another filter for the log changes nothing about that. -/
theorem ReadsLines.of_agree {platform : Platform} {env other : Environment}
    (reads : platform.ReadsLines env) (filters : platform.FiltersLogOnly)
    (agree : AgreeButForFilter env other) : platform.ReadsLines other where
  opens := by rw [filters.openEditor_eq _ _ agree, reads.opens]
  handles := reads.handles
  noPrompt := by
    rw [filters.prompt_eq _ _ agree]
    exact reads.noPrompt
  readings_encode := by
    rw [filters.readings_eq _ _ agree]
    exact reads.readings_encode

end Platform

/-! ## The usual platform -/

namespace Text

/-- Clusters that are no backspaces are added to a line as they are. -/
private theorem foldlM_push? {parts : List (List Char)} (h : [backspace] ∉ parts) (draft : Draft) :
    ∃ sizes, parts.foldlM Draft.push? draft =
      some ⟨parts.flatten.reverse ++ draft.reversed, sizes⟩ := by
  induction parts generalizing draft with
  | nil => exact ⟨draft.sizes, rfl⟩
  | cons cluster rest ih =>
    rw [List.mem_cons, not_or] at h
    obtain ⟨sizes, done⟩ := ih h.2 (draft.append cluster)
    have pushed : draft.push? cluster = some (draft.append cluster) := if_neg (Ne.symm h.1)
    refine ⟨sizes, ?_⟩
    rw [List.foldlM_cons, pushed, Option.bind_eq_bind, Option.bind_some, done]
    simp [Draft.append]

/-- Where there are no backspaces, nothing is taken back. -/
theorem applyBackspaces?_of_notMem {line : String} (h : backspace ∉ line.toList) :
    applyBackspaces? line = some line := by
  -- The clusters make up the line, so that none of them is a backspace.
  have noCluster : [backspace] ∉ clusters line.toList := by
    intro mem
    rw [← flatten_clusters line.toList] at h
    exact h (List.mem_flatten_of_mem mem List.mem_cons_self)
  obtain ⟨sizes, done⟩ := foldlM_push? noCluster .empty
  rw [applyBackspaces?, done, flatten_clusters]
  simp [Draft.empty]

end Text

namespace Platform

variable {account : Option Path} {env other : Environment}

/-- A line without backspaces is read as it is written. -/
theorem readLine_encode {line : String} (h : Text.backspace ∉ line.toList) :
    readLine (Text.encode line) = .line line := by
  rw [readLine, Text.encode, Text.decode?_encodeChars, String.ofList_toList, Option.map_some,
    Text.applyBackspaces?_of_notMem h]

theorem readsLines_unix (noPrompt : showsPrompt env = false) : (unix account).ReadsLines env where
  opens := rfl
  handles := rfl
  noPrompt text := if_neg (by rw [noPrompt]; exact Bool.false_ne_true)
  readings_encode text noBackspace := by
    show (Text.lines 0x0A 0x0D (Text.encode text)).map readLine = _
    rw [Text.lines_encode, List.map_map]
    refine List.map_congr_left fun line mem => readLine_encode fun holds => noBackspace ?_
    exact Text.subset_of_mem_textLines mem holds

/-- The test of a variable does not depend on the filter for the log, unless it is that variable. -/
private theorem AgreeButForFilter.passes (agree : AgreeButForFilter env other) {name : String}
    (h : name ≠ filterVariable) (test : String → Bool) :
    other.passes name test = env.passes name test :=
  congrArg (Option.any test) (agree name h)

theorem filtersLogOnly_unix : (unix account).FiltersLogOnly where
  home_eq env other agree := by
    show homeDirectory account other = homeDirectory account env
    rw [homeDirectory, homeDirectory, agree "HOME" (by decide)]
  styling_eq env other agree := by
    have colors : Palette.wantsColor other = Palette.wantsColor env := by
      simp (disch := decide) only [Palette.wantsColor, agree.passes, agree _]
    show (Palette.ofEnvironment other).styling = (Palette.ofEnvironment env).styling
    rw [Palette.ofEnvironment, Palette.ofEnvironment, colors]
  openEditor_eq _ _ _ := rfl
  prompt_eq env other agree := by
    funext text
    show (if showsPrompt other then _ else _) = if showsPrompt env then _ else _
    rw [showsPrompt, showsPrompt, agree.passes (by decide)]
  readings_eq _ _ _ := rfl

end Platform

end LineShell
