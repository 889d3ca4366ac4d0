import LineShell.Proofs.Settings.File
import LineShell.Proofs.Text.Lines
import LineShell.Proofs.Text.Words

/-!
# Quoted values

A text of any kind can be written into a settings file: put in quotes, it keeps the blanks at its
ends, and the quotes that it has itself. Only a line feed cannot be written, since it ends the line. The
quoted line is a line of the file as it stands (`Text.HasLine.exists_lines`), and its key and value are
those that were written (`hasPair_quotedLine`). So the value is what the file means, unless a later line
chooses another one.

The main result is `keepsQuoted`.
-/

namespace LineShell

open Assignment (Assigns Chooses HasPair IsQuote)
open Text (HasLine IsTight IsWord isBlank trim)

variable {key value text rest : String} {quote : Char}

/-- The line that gives a setting a value in quotes. -/
def quotedLine (key : String) (quote : Char) (value : String) : String :=
  key ++ " = " ++ String.singleton quote ++ value ++ String.singleton quote

theorem toList_quotedLine : (quotedLine key quote value).toList =
    key.toList ++ ' ' :: '=' :: ' ' :: quote :: value.toList ++ [quote] := by
  simp [quotedLine]

/-- A word that can be written as a key. -/
structure IsKey (key : String) : Prop where
  /-- It has no blanks, which would be cut off. -/
  isWord : IsWord key
  /-- It does not end before its end. -/
  noSign : '=' ∉ key.toList
  /-- It does not begin a comment. -/
  noComment : key.toList.head? ≠ some '#'

namespace Assignment

theorem IsQuote.isBlank_eq_false (h : IsQuote quote) : isBlank quote = false := by
  rcases h with rfl | rfl
  · decide
  · decide

theorem IsQuote.ne_of_isBlank {c : Char} (h : IsQuote quote) (blank : isBlank c = true) :
    quote ≠ c := by
  rintro rfl
  rw [h.isBlank_eq_false] at blank
  cases blank

/-- What begins with a letter and ends in a quote has no blanks to be cut off. -/
theorem IsQuote.isTight (h : IsQuote quote) {chars : List Char} (notNil : chars ≠ [])
    (first : ∀ c ∈ chars.head?, isBlank c = false) : IsTight (chars ++ [quote]) where
  ne_nil := List.concat_ne_nil quote chars
  first := by rwa [List.head?_append_of_ne_nil _ notNil]
  last c isLast := by
    rw [List.getLast?_concat] at isLast
    obtain rfl := Option.some.inj isLast
    exact h.isBlank_eq_false

theorem head?_quotedLine (isKey : IsKey key) :
    (quotedLine key quote value).toList.head? = key.toList.head? := by
  rw [toList_quotedLine, List.append_assoc, List.head?_append_of_ne_nil _ isKey.isWord.1]

theorem trim_quotedLine (isQuote : IsQuote quote) (isKey : IsKey key) :
    trim (quotedLine key quote value).toList = (quotedLine key quote value).toList := by
  rw [toList_quotedLine]
  refine (isQuote.isTight (by simp) ?_).trim_eq
  rw [List.head?_append_of_ne_nil _ isKey.isWord.1]
  exact isKey.isWord.isTight.first

/-- The key and the value of a quoted line are those that were written. -/
theorem hasPair_quotedLine (isQuote : IsQuote quote) (isKey : IsKey key) :
    HasPair (quotedLine key quote value).toList key value where
  notSilent := by
    rw [IsSilent, trim_quotedLine isQuote isKey, head?_quotedLine isKey]
    rintro (nothing | comment)
    · simp [toList_quotedLine] at nothing
    · exact isKey.noComment comment
  cut := by
    have space : ∀ c ∈ [' '], isBlank c = true := List.forall_mem_singleton.2 (by decide)
    have keyPart : trim (key.toList ++ [' ']) = key.toList := by
      have trimmed : trim ([] ++ key.toList ++ [' ']) = key.toList :=
        isKey.isWord.isTight.trim_append nofun space
      rwa [List.nil_append] at trimmed
    have valuePart : trim (' ' :: (quote :: value.toList ++ [quote])) =
        quote :: value.toList ++ [quote] := by
      have tight : IsTight (quote :: value.toList ++ [quote]) :=
        isQuote.isTight (List.cons_ne_nil _ _) (by simpa using isQuote.isBlank_eq_false)
      have trimmed : trim ([' '] ++ (quote :: value.toList ++ [quote]) ++ []) =
          quote :: value.toList ++ [quote] := tight.trim_append space nofun
      rwa [List.append_nil] at trimmed
    refine ⟨key.toList ++ [' '], ' ' :: (quote :: value.toList ++ [quote]), ?_, ?_, keyPart, ?_⟩
    · rw [trim_quotedLine isQuote isKey, toList_quotedLine]
      simp
    · simpa using isKey.noSign
    · rw [valuePart]
      exact .wrapped value.toList isQuote

end Assignment

theorem isKey_prompt : IsKey "prompt" :=
  ⟨by decide, by decide, by decide⟩

theorem isKey_startDirectory : IsKey "start_dir" :=
  ⟨by decide, by decide, by decide⟩

namespace Settings

/-- The value of a quoted line is what its setting has after the file is read. -/
theorem read_of_hasLine {β : Type} {setting : Setting String β} (isQuote : IsQuote quote)
    (isKey : IsKey key) (noFeed : '\n' ∉ value.toList)
    (chooses : Chooses key value (setting.choose value))
    (hasLine : HasLine text (quotedLine key quote value) rest)
    (untouched : setting.IsUntouchedBy (linesOf rest)) :
    setting.read (ofText text).1 = setting.keep value := by
  have assigns : Assigns (quotedLine key quote value).toList (setting.choose value) :=
    ⟨key, value, Assignment.hasPair_quotedLine isQuote isKey, chooses⟩
  -- The line is found in the text as it was written: it has no line feed, and no return at its end.
  have notEmpty : quotedLine key quote value ≠ "" := by
    rw [Ne, ← String.toList_eq_nil_iff, toList_quotedLine]
    exact List.concat_ne_nil _ _
  have noFeedInLine : '\n' ∉ (quotedLine key quote value).toList := by
    have notKey : '\n' ∉ key.toList := isKey.isWord.notMem (by decide)
    have notQuote : '\n' ≠ quote := (isQuote.ne_of_isBlank (by decide)).symm
    simp [toList_quotedLine, notKey, notQuote, noFeed]
  have noReturn : (quotedLine key quote value).toList.getLast? ≠ some '\r' := by
    rw [toList_quotedLine, List.getLast?_concat, Ne, Option.some.injEq]
    exact isQuote.ne_of_isBlank (by decide)
  obtain ⟨earlier, split⟩ := hasLine.exists_lines notEmpty noFeedInLine noReturn
  rw [ofText_eq, ← Setting.isLast_iff, linesOf, split]
  exact .chosen earlier assigns untouched

/-- Any file with a text is loaded, and the settings are so. -/
def LoadsAs (text : String) (holds : Settings → Prop) : Prop :=
  ∀ fs start home named source, IsFile fs start home named source text →
    ∃ settings log, load fs start home named = (.ok settings, log) ∧ holds settings

/-- What is written in quotes is kept as it is, unless a later line chooses another one. -/
structure KeepsQuoted (value : String) (quote : Char) : Prop where
  /-- Any text can be the end of the prompt. -/
  prompt : ∀ text rest, HasLine text (quotedLine "prompt" quote value) rest →
    Setting.prompt.IsUntouchedBy (linesOf rest) → LoadsAs text fun settings =>
      settings.prompt = value
  /-- Any text but the empty one can be the directory to start in. -/
  startDirectory : value ≠ "" →
    ∀ text rest, HasLine text (quotedLine "start_dir" quote value) rest →
      Setting.startDirectory.IsUntouchedBy (linesOf rest) → LoadsAs text fun settings =>
        settings.startDirectory = some value

/-- All that can be written in a line can be written in quotes. -/
theorem keepsQuoted (isQuote : IsQuote quote) (noFeed : '\n' ∉ value.toList) :
    KeepsQuoted value quote where
  prompt text rest hasLine untouched fs start home named source file := by
    have kept : Setting.prompt.read (ofText text).1 = Setting.prompt.keep value :=
      read_of_hasLine isQuote isKey_prompt noFeed (.prompt value) hasLine untouched
    exact ⟨_, _, load_of_isFile file, kept⟩
  startDirectory notEmpty text rest hasLine untouched fs start home named source file := by
    have chooses : Chooses "start_dir" value (.startDirectory value) := .startDirectory notEmpty
    have kept : Setting.startDirectory.read (ofText text).1 = Setting.startDirectory.keep value :=
      read_of_hasLine isQuote isKey_startDirectory noFeed chooses hasLine untouched
    exact ⟨_, _, load_of_isFile file, kept⟩

/-- A text with a quoted line for each of the two settings, after a choice that they hide. -/
def quotingText : String :=
  "prompt = $ \nprompt = '# it's = \"\u3000'\r\nstart_dir = '# it's = \"\u3000'"

/-- A root with a settings file. -/
def quotingFile : FileSystem :=
  FileSystem.empty.addFile [] (Text.encode "rc") ⟨Text.encode quotingText, false⟩

theorem keepsQuoted_quotingFile :
    let value := "# it's = \"\u3000"
    IsQuote '\x27' ∧ '\n' ∉ value.toList ∧
      (∃ settings log, load quotingFile [] none (some "rc") = (.ok settings, log) ∧
        settings.prompt = value) ∧
      ∃ settings log, load quotingFile [] none (some "rc") = (.ok settings, log) ∧
        settings.startDirectory = some value := by
  intro value
  let promptLine := quotedLine "prompt" '\x27' value
  let directoryLine := quotedLine "start_dir" '\x27' value
  have isQuote : IsQuote '\x27' := .inr rfl
  have noFeed : '\n' ∉ value.toList := by decide
  have found : quotingFile.findFrom [] (.expandHome none "rc") .follow =
      .ok ([Text.encode "rc"], .file 0) := by
    decide +kernel
  have file : IsFile quotingFile [] none (some "rc") ⟨.expandHome none "rc", true⟩ quotingText :=
    ⟨rfl, by rw [FileSystem.readFrom, found]; rfl⟩
  have first : HasLine quotingText promptLine directoryLine :=
    ⟨"prompt = $ \n", "\r\n", .inr ⟨"prompt = $ ", by decide⟩, .returnFeed _, by decide⟩
  have second : HasLine quotingText directoryLine "" :=
    ⟨"prompt = $ \n" ++ promptLine ++ "\r\n", "",
      .inr ⟨"prompt = $ \n" ++ promptLine ++ "\r", by decide⟩, .none, by decide⟩
  have promptUntouched : Setting.prompt.IsUntouchedBy (linesOf directoryLine) := by
    -- The line after the prompt chooses a directory, and nothing else.
    have cut : linesOf directoryLine = [directoryLine.toList] :=
      Text.lines_of_notMem (by decide) (by decide)
    have pair : HasPair directoryLine.toList "start_dir" value :=
      Assignment.hasPair_quotedLine isQuote isKey_startDirectory
    have read := Assignment.ofLine_of_assigns ⟨_, value, pair, .startDirectory (by decide)⟩
    intro line mem other assigns
    rw [cut, List.mem_singleton] at mem
    cases mem
    cases read.symm.trans (Assignment.ofLine_of_assigns assigns)
  have directoryUntouched : Setting.startDirectory.IsUntouchedBy (linesOf "") := nofun
  have keeps := keepsQuoted isQuote noFeed
  exact ⟨isQuote, noFeed, keeps.prompt _ _ first promptUntouched _ _ _ _ _ file,
    keeps.startDirectory (by decide) _ _ second directoryUntouched _ _ _ _ _ file⟩

end Settings

end LineShell
