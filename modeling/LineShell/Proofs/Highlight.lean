import LineShell.Completion
import LineShell.Proofs.Text.Runs

/-!
# A coloured line

A coloured line is the line itself with codes around some of its words. Cut into its gaps and words, it
has one style for each of them, which depends only on the part and on what stands before it
(`Decorates`). There is one decoration of a line (`decorates_iff`), and what it comes to is what is shown
(`line_styled_eq_iff`).

While a line is typed, its first word is shown as a command if the line would call one
(`ShowsCall`). The main result is `decorates_shown`. It holds whatever the codes are.
-/

namespace LineShell

namespace Palette

open Text (IsGap IsWord IsCut)

variable {styling : Styling} {known : String → Bool} {line part : String}
  {before parts : List String}

/-- How a part of a line is shown. -/
inductive Style
  /-- As it is. -/
  | bare
  /-- Bold and cyan. -/
  | boldCyan
  /-- Bold and red. -/
  | boldRed
  /-- Yellow. -/
  | yellow
  deriving DecidableEq

namespace Style

/-- The codes before a part. -/
def opening (styling : Styling) : Style → String
  | bare => ""
  | boldCyan => styling.cyan ++ styling.bold
  | boldRed => styling.red ++ styling.bold
  | yellow => styling.yellow

/-- The code after a part. -/
def closing (styling : Styling) : Style → String
  | bare => ""
  | boldCyan | boldRed | yellow => styling.reset

/-- Whether a part is shown as the command word of a line. -/
def IsOfCommand (style : Style) : Prop :=
  style = boldCyan ∨ style = boldRed

end Style

/-- A part of a line and how it is shown. -/
structure Stretch where
  /-- The part. -/
  text : String
  /-- How it is shown. -/
  style : Style

/-- A part between its codes. -/
def Stretch.written (styling : Styling) (stretch : Stretch) : String :=
  stretch.style.opening styling ++ stretch.text ++ stretch.style.closing styling

/-- A line with its codes. -/
def written (styling : Styling) (stretches : List Stretch) : String :=
  String.join (stretches.map (Stretch.written styling))

/-- The style of a part, given what stands before it. The first word is cyan or red, the others are
yellow if they begin like a flag. -/
def styleOf (known : String → Bool) (before : List String) (part : String) : Style :=
  if ¬ IsWord part then .bare
  else if ∀ other ∈ before, ¬ IsWord other then
    if known part then .boldCyan else .boldRed
  else if part.toList.head? = some '-' then .yellow
  else .bare

/-- A line is cut into its gaps and words, and each of them has its style. -/
structure Decorates (known : String → Bool) (line : String) (stretches : List Stretch) : Prop where
  /-- Without the codes, the parts are the cut of the line. -/
  cut : IsCut line (stretches.map Stretch.text)
  /-- The style of each part is the one it has after those before it. -/
  style_eq : ∀ front stretch back, stretches = front ++ stretch :: back →
    stretch.style = styleOf known (front.map Stretch.text) stretch.text

/-! ## The decoration of a line -/

/-- Parts of a line with their styles, given what stands before them. -/
def decorateFrom (known : String → Bool) (before : List String) : List String → List Stretch
  | [] => []
  | part :: rest => ⟨part, styleOf known before part⟩ :: decorateFrom known (before ++ [part]) rest

theorem map_text_decorateFrom (known : String → Bool) (before parts : List String) :
    (decorateFrom known before parts).map Stretch.text = parts := by
  induction parts generalizing before with
  | nil => rfl
  | cons part rest ih => rw [decorateFrom, List.map_cons, ih]

/-- A list of styled parts is the decoration of its parts if each of them has its style. -/
theorem eq_decorateFrom_iff {stretches : List Stretch} :
    stretches = decorateFrom known before (stretches.map Stretch.text) ↔
      ∀ front stretch back, stretches = front ++ stretch :: back →
        stretch.style = styleOf known (before ++ front.map Stretch.text) stretch.text := by
  induction stretches generalizing before with
  | nil => simp [decorateFrom]
  | cons first rest ih =>
    have here : first = ⟨first.text, styleOf known before first.text⟩ ↔
        first.style = styleOf known before first.text := by
      obtain ⟨text, style⟩ := first
      simp
    rw [List.map_cons, decorateFrom, List.cons.injEq, ih, here]
    constructor
    · rintro ⟨here, later⟩ front stretch back split
      rcases List.cons_eq_append_iff.1 split with ⟨rfl, same⟩ | ⟨front, rfl, same⟩
      · obtain ⟨rfl, rfl⟩ := List.cons.inj same
        simpa using here
      · simpa using later front stretch back same
    · intro styles
      refine ⟨by simpa using styles [] first rest rfl, fun front stretch back split => ?_⟩
      simpa using styles (first :: front) stretch back (by rw [split, List.cons_append])

/-- A line has one decoration. -/
theorem decorates_iff {stretches : List Stretch} :
    Decorates known line stretches ↔
      stretches = decorateFrom known [] ((Text.runs line.toList).map String.ofList) := by
  constructor
  · rintro ⟨cut, style_eq⟩
    rw [← Text.isCut_iff.1 cut, eq_decorateFrom_iff]
    exact style_eq
  · intro same
    have texts : stretches.map Stretch.text = (Text.runs line.toList).map String.ofList := by
      rw [same, map_text_decorateFrom]
    have styled : stretches = decorateFrom known [] (stretches.map Stretch.text) := by rwa [texts]
    exact ⟨Text.isCut_iff.2 texts, eq_decorateFrom_iff.1 styled⟩

/-! ## What is shown -/

theorem written_of_gap (gap : ¬ IsWord part) :
    Stretch.written styling ⟨part, styleOf known before part⟩ = part := by
  simp [Stretch.written, styleOf, gap, Style.opening, Style.closing]

theorem written_of_word (word : IsWord part) :
    Stretch.written styling ⟨part, styleOf known before part⟩ =
      if ∀ other ∈ before, ¬ IsWord other then styling.commandWord known part
      else styling.laterWord part := by
  rw [styleOf, if_neg (not_not_intro word)]
  split_ifs with first isKnown flag
  · simp [Stretch.written, Style.opening, Style.closing, Styling.commandWord, isKnown]
  · simp [Stretch.written, Style.opening, Style.closing, Styling.commandWord, isKnown]
  · simp [Stretch.written, Style.opening, Style.closing, Styling.laterWord, flag]
  · simp [Stretch.written, Style.opening, Style.closing, Styling.laterWord, flag]

/-- Runs are painted as the parts that they are. -/
theorem paintRuns_eq {first : Bool} {runs : List (List Char)}
    (uniform : ∀ run ∈ runs, IsWord (String.ofList run) ↔ Text.isBlankRun run = false)
    (isFirst : first = true ↔ ∀ other ∈ before, ¬ IsWord other) :
    styling.paintRuns known first runs =
      written styling (decorateFrom known before (runs.map String.ofList)) := by
  induction runs generalizing first before with
  | nil => rfl
  | cons run rest ih =>
    rw [List.forall_mem_cons] at uniform
    have onward {goesOn : Bool} := @ih (before ++ [String.ofList run]) goesOn uniform.2
    rw [List.map_cons, decorateFrom, written, List.map_cons, String.join_cons, ← written,
      Styling.paintRuns]
    cases blank : Text.isBlankRun run with
    | true =>
      have gap : ¬ IsWord (String.ofList run) := by
        rw [uniform.1, blank]
        exact Bool.noConfusion
      -- A gap changes nothing for the words after it.
      rw [if_pos rfl, written_of_gap gap, onward (by simp [or_imp, forall_and, gap, isFirst])]
    | false =>
      have word : IsWord (String.ofList run) := uniform.1.2 blank
      rw [if_neg Bool.false_ne_true, written_of_word word, onward (by simp [word])]
      simp only [isFirst]

/-- What is shown of a line is its decoration. -/
theorem line_styled_eq_iff {shown : String} :
    (styled styling).line known line = shown ↔
      ∃ stretches, Decorates known line stretches ∧ written styling stretches = shown := by
  have painted : (styled styling).line known line =
      written styling (decorateFrom known [] ((Text.runs line.toList).map String.ofList)) :=
    paintRuns_eq (fun run isRun => Text.isWord_ofList_iff isRun) (by simp)
  simp only [decorates_iff, exists_eq_left, painted]

/-! ## The command word -/

theorem isOfCommand_styleOf_iff :
    (styleOf known before part).IsOfCommand ↔ IsWord part ∧ ∀ other ∈ before, ¬ IsWord other := by
  rw [styleOf]
  by_cases word : IsWord part
  · rw [if_neg (not_not_intro word)]
    split_ifs with first isKnown flag
    · exact iff_of_true (.inl rfl) ⟨word, first⟩
    · exact iff_of_true (.inr rfl) ⟨word, first⟩
    · exact iff_of_false (by simp [Style.IsOfCommand]) fun h => first h.2
    · exact iff_of_false (by simp [Style.IsOfCommand]) fun h => first h.2
  · rw [if_pos word]
    exact iff_of_false (by simp [Style.IsOfCommand]) fun h => word h.1

namespace Decorates

variable {stretches : List Stretch} {invocation : Invocation} (h : Decorates known line stretches)

include h

/-- A part that is shown as the command word is what the line calls. -/
theorem exists_ofLine? {stretch : Stretch} (mem : stretch ∈ stretches)
    (command : stretch.style.IsOfCommand) :
    (∃ operands, Invocation.ofLine? line = some ⟨stretch.text, operands⟩) ∧
      stretch.style = if known stretch.text then .boldCyan else .boldRed := by
  obtain ⟨front, back, split⟩ := List.append_of_mem mem
  have style := h.style_eq front stretch back split
  rw [style, isOfCommand_styleOf_iff] at command
  obtain ⟨word, first⟩ := command
  constructor
  · -- The words of the line are read off the parts, and no part before this one is a word.
    have words := h.cut.words_eq
    rw [split, List.map_append, List.map_cons, List.filter_append,
      List.filter_eq_nil_iff.2 (by simpa using first), List.nil_append,
      List.filter_cons_of_pos (by simpa using word)] at words
    exact ⟨_, Invocation.ofLine?_eq_some_iff.2 words⟩
  · rw [style, styleOf, if_neg (not_not_intro word), if_pos first]

/-- What a line calls is shown as the command word. -/
theorem exists_isOfCommand (calls : Invocation.ofLine? line = some invocation) :
    ∃ stretch ∈ stretches, stretch.text = invocation.name ∧ stretch.style.IsOfCommand := by
  have words := h.cut.words_eq
  rw [Invocation.ofLine?_eq_some_iff.1 calls, eq_comm, List.filter_eq_cons_iff] at words
  obtain ⟨texts, rest, cut, first, word, -⟩ := words
  obtain ⟨front, later, split, rfl, ends⟩ := List.map_eq_append_iff.1 cut
  obtain ⟨stretch, back, rfl, named, -⟩ := List.map_eq_cons_iff.1 ends
  refine ⟨stretch, by simp [split], named, ?_⟩
  rw [h.style_eq front stretch back split, isOfCommand_styleOf_iff, named]
  exact ⟨by simpa using word, by simpa using first⟩

end Decorates

/-- A decorated line shows what it calls. -/
structure ShowsCall (line : String) (stretches : List Stretch) : Prop where
  /-- A part is shown as the command word if it is the name that the line calls. -/
  name_eq : ∀ stretch ∈ stretches, stretch.style.IsOfCommand →
    ∃ operands, Invocation.ofLine? line = some ⟨stretch.text, operands⟩
  /-- There is such a part if the line calls anything. -/
  calls_iff : (∃ stretch ∈ stretches, stretch.style.IsOfCommand) ↔
    (Invocation.ofLine? line).isSome = true
  /-- It is cyan if there is a command of the name. -/
  cyan_iff : (∃ stretch ∈ stretches, stretch.style = .boldCyan) ↔
    ∃ invocation, Invocation.ofLine? line = some invocation ∧
      (Builtin.find? invocation.name).isSome = true

/-- Whether a word is the name of a command. -/
def isCommand (word : String) : Bool :=
  (Builtin.find? word).isSome

theorem showsCall {stretches : List Stretch} (h : Decorates isCommand line stretches) :
    ShowsCall line stretches where
  name_eq stretch mem command := (h.exists_ofLine? mem command).1
  calls_iff := by
    rw [Option.isSome_iff_exists]
    constructor
    · rintro ⟨stretch, mem, command⟩
      obtain ⟨⟨operands, calls⟩, -⟩ := h.exists_ofLine? mem command
      exact ⟨_, calls⟩
    · rintro ⟨invocation, calls⟩
      obtain ⟨stretch, mem, -, command⟩ := h.exists_isOfCommand calls
      exact ⟨stretch, mem, command⟩
  cyan_iff := by
    constructor
    · rintro ⟨stretch, mem, cyan⟩
      obtain ⟨⟨operands, calls⟩, style⟩ := h.exists_ofLine? mem (.inl cyan)
      refine ⟨_, calls, ?_⟩
      by_contra unknown
      rw [cyan, if_neg (by exact unknown)] at style
      cases style
    · rintro ⟨invocation, calls, known⟩
      obtain ⟨stretch, mem, named, command⟩ := h.exists_isOfCommand calls
      obtain ⟨-, style⟩ := h.exists_ofLine? mem command
      refine ⟨stretch, mem, ?_⟩
      rw [style, named, if_pos (by exact known)]

/-- A line is shown as it is decorated, whatever commands are known, and in no other way. While it is
typed, it shows what it calls. -/
theorem decorates_shown (styling : Styling) (line : String) :
    (∀ known shown, (styled styling).line known line = shown ↔
      ∃ stretches, Decorates known line stretches ∧ written styling stretches = shown) ∧
    (∃ stretches, Decorates isCommand line stretches ∧
      Completion.shown (styled styling) line = written styling stretches ∧
      ShowsCall line stretches) := by
  refine ⟨fun known shown => line_styled_eq_iff, ?_⟩
  obtain ⟨stretches, decorates, shown⟩ :=
    line_styled_eq_iff.1 (Eq.refl ((styled styling).line isCommand line))
  exact ⟨stretches, decorates, shown.symm, showsCall decorates⟩

example (styling : Styling) : Completion.shown (styled styling) "\u3000cp  -r a" =
    "\u3000" ++ (styling.cyan ++ styling.bold ++ "cp" ++ styling.reset ++ ("  " ++
      (styling.yellow ++ "-r" ++ styling.reset ++ (" " ++ ("a" ++ ""))))) := by
  rfl

end Palette

end LineShell
