import Mathlib.Data.List.DropRight
import LineShell.Settings.File

/-!
# Lines of a settings file

What a line of a settings file says, as a grammar: nothing (`IsSilent`), or a key and a value
(`HasPair`), which are a choice (`Chooses`) or a mistake (`Rejects`), or nothing of the kind. Each line is
silent, makes a choice or is refused (`line_cases`), and it is read by that grammar: the choice that is
read is the one that it makes (`ofLine_eq_some_iff`), and the error is the reason for which it is refused
(`ofLine_eq_error_iff`).
-/

namespace LineShell

namespace Assignment

open Text (trim)

variable {line value text : List Char} {key word : String} {assignment : Assignment}
  {error : SettingsError}

/-! ## The grammar -/

/-- A line that says nothing: it is blank, or a comment. -/
def IsSilent (line : List Char) : Prop :=
  trim line = [] ∨ (trim line).head? = some '#'

/-- The characters that a value can be wrapped in. -/
def IsQuote (quote : Char) : Prop :=
  quote = '"' ∨ quote = '\x27'

/-- What a value stands for: what is wrapped in a pair of equal quotes, or else the value itself. -/
inductive Unquotes : List Char → List Char → Prop
  /-- The value is wrapped. -/
  | wrapped {quote : Char} (text : List Char) :
    IsQuote quote → Unquotes (quote :: text ++ [quote]) text
  /-- The value is not wrapped. -/
  | bare {value : List Char} :
    (∀ quote text, IsQuote quote → value ≠ quote :: text ++ [quote]) → Unquotes value value

/-- A line has a key before its first equality sign, and a value after it. -/
structure HasPair (line : List Char) (key word : String) : Prop where
  /-- The line says something. -/
  notSilent : ¬ IsSilent line
  /-- It has an equality sign, and it is the first one that is between the key and the value. -/
  cut : ∃ front back, trim line = front ++ '=' :: back ∧ '=' ∉ front ∧
    trim front = key.toList ∧ Unquotes (trim back) word.toList

/-- The words for yes. -/
def wordsOn : List String :=
  ["on", "true", "yes"]

/-- The words for no. -/
def wordsOff : List String :=
  ["off", "false", "no"]

/-- The choices that a key and a value make. Only the words for yes and no are read whatever the case of
their letters. -/
inductive Chooses : String → String → Assignment → Prop
  | on {word : String} : word.map Char.toLower ∈ wordsOn → Chooses "color" word (.color true)
  | off {word : String} : word.map Char.toLower ∈ wordsOff → Chooses "color" word (.color false)
  | prompt (text : String) : Chooses "prompt" text (.prompt text)
  | startDirectory {path : String} : path ≠ "" →
    Chooses "start_dir" path (.startDirectory path)

/-- The mistakes that a key and a value can be. -/
inductive Rejects : String → String → SettingsError → Prop
  /-- There is no setting of the name. -/
  | unknownKey {key : String} (word : String) : key ∉ ["color", "prompt", "start_dir"] →
    Rejects key word (.unknownKey key)
  /-- The word is none for yes or no. -/
  | neither {word : String} : word.map Char.toLower ∉ wordsOn ++ wordsOff →
    Rejects "color" word (.invalidValue "color" word)
  /-- No directory is named. -/
  | noDirectory : Rejects "start_dir" "" (.invalidValue "start_dir" "")

/-- A line makes a choice. -/
def Assigns (line : List Char) (assignment : Assignment) : Prop :=
  ∃ key word, HasPair line key word ∧ Chooses key word assignment

/-- A line is refused for a reason. -/
inductive Refuses (line : List Char) : SettingsError → Prop
  /-- It has no equality sign. -/
  | malformed : ¬ IsSilent line → '=' ∉ trim line →
    Refuses line (.malformed (String.ofList (trim line)))
  /-- It has a key and a value, and they are a mistake. -/
  | rejected {key word : String} {error : SettingsError} : HasPair line key word →
    Rejects key word error → Refuses line error

/-! ## Values -/

theorem stripQuotes_eq_iff : stripQuotes value = text ↔ Unquotes value text := by
  constructor
  · rintro rfl
    unfold stripQuotes
    split
    · exact .bare (by simp)
    · rename_i quote rest
      -- The quote at the end is another one, so that a single quote is not wrapped.
      split_ifs with wrapped
      · obtain ⟨isQuote, last⟩ := wrapped
        obtain ⟨inner, rfl⟩ := List.getLast?_eq_some_iff.1 last
        rw [List.dropLast_concat]
        exact .wrapped inner isQuote
      · refine .bare fun other inner isQuote same => wrapped ?_
        obtain ⟨rfl, rfl⟩ := List.cons.inj same
        exact ⟨isQuote, List.getLast?_concat⟩
  · rintro (⟨text, isQuote⟩ | notWrapped)
    · rw [List.cons_append, stripQuotes, if_pos ⟨isQuote, List.getLast?_concat⟩,
        List.dropLast_concat]
    · unfold stripQuotes
      split
      · rfl
      · rename_i quote rest
        refine if_neg fun wrapped => ?_
        obtain ⟨inner, rfl⟩ := List.getLast?_eq_some_iff.1 wrapped.2
        exact notWrapped quote inner wrapped.1 rfl

theorem readSwitch?_eq_some_iff {on : Bool} :
    readSwitch? word = some on ↔ word.map Char.toLower ∈ if on then wordsOn else wordsOff := by
  have apart : ∀ lower, lower ∈ wordsOff → lower ∉ wordsOn := by decide
  have form : readSwitch? word = if word.map Char.toLower ∈ wordsOn then some true else
      if word.map Char.toLower ∈ wordsOff then some false else none := rfl
  have notBoth := apart (word.map Char.toLower)
  rw [form]
  cases on <;> grind

theorem readSwitch?_eq_none_iff :
    readSwitch? word = none ↔ word.map Char.toLower ∉ wordsOn ++ wordsOff := by
  rw [Option.eq_none_iff_forall_ne_some, Bool.forall_bool]
  simp only [ne_eq, readSwitch?_eq_some_iff, List.mem_append, not_or]
  exact and_comm

theorem ofPair_of_chooses (h : Chooses key word assignment) : ofPair key word = .ok assignment := by
  cases h with
  | on listed =>
    have known : readSwitch? word = some true := readSwitch?_eq_some_iff.2 listed
    rw [ofPair, if_pos rfl, known]
  | off listed =>
    have known : readSwitch? word = some false := readSwitch?_eq_some_iff.2 listed
    rw [ofPair, if_pos rfl, known]
  | prompt => rfl
  | startDirectory isPath => exact if_neg isPath

theorem ofPair_of_rejects (h : Rejects key word error) : ofPair key word = .error error := by
  cases h with
  | unknownKey _ unknown =>
    simp only [List.mem_cons, List.not_mem_nil, or_false, not_or] at unknown
    rw [ofPair, if_neg unknown.1, if_neg unknown.2.1, if_neg unknown.2.2]
  | neither notListed =>
    have unknown : readSwitch? word = none := readSwitch?_eq_none_iff.2 notListed
    rw [ofPair, if_pos rfl, unknown]
  | noDirectory => rfl

/-- A key and a value are a choice or a mistake. -/
theorem pair_cases (key word : String) :
    (∃ assignment, Chooses key word assignment) ∨ ∃ error, Rejects key word error := by
  by_cases known : key ∈ ["color", "prompt", "start_dir"]
  · simp only [List.mem_cons, List.not_mem_nil, or_false] at known
    rcases known with rfl | rfl | rfl
    · by_cases on : word.map Char.toLower ∈ wordsOn
      · exact .inl ⟨_, .on on⟩
      by_cases off : word.map Char.toLower ∈ wordsOff
      · exact .inl ⟨_, .off off⟩
      · exact .inr ⟨_, .neither (by simp [on, off])⟩
    · exact .inl ⟨_, .prompt word⟩
    · by_cases empty : word = ""
      · subst empty
        exact .inr ⟨_, .noDirectory⟩
      · exact .inl ⟨_, .startDirectory empty⟩
  · exact .inr ⟨_, .unknownKey word known⟩

/-! ## Lines -/

theorem ofLine_of_isSilent (h : IsSilent line) : ofLine line = .ok none := by
  rw [ofLine]
  exact if_pos h

theorem ofLine_of_notMem (notSilent : ¬ IsSilent line) (noSign : '=' ∉ trim line) :
    ofLine line = .error (.malformed (String.ofList (trim line))) := by
  have rest : (trim line).dropWhile (· ≠ '=') = [] := by
    rw [List.dropWhile_eq_nil_iff]
    exact fun c mem => decide_eq_true (ne_of_mem_of_not_mem mem noSign)
  rw [ofLine]
  simp only [rest]
  exact if_neg notSilent

theorem ofLine_of_hasPair (h : HasPair line key word) :
    ofLine line = (ofPair key word).map some := by
  obtain ⟨notSilent, front, back, cut, first, keyed, unquotes⟩ := h
  have goesOn : ∀ c ∈ front, decide (c ≠ '=') = true := fun c mem =>
    decide_eq_true (ne_of_mem_of_not_mem mem first)
  -- The value may have equality signs of its own: the first one ends the key.
  have keyPart : (trim line).takeWhile (· ≠ '=') = front := by
    rw [cut, List.takeWhile_append_of_pos goesOn]
    simp
  have rest : (trim line).dropWhile (· ≠ '=') = '=' :: back := by
    rw [cut, List.dropWhile_append_of_pos goesOn]
    simp
  rw [ofLine]
  simp only [keyPart, rest]
  rw [keyed, stripQuotes_eq_iff.2 unquotes, String.ofList_toList, String.ofList_toList]
  exact if_neg notSilent

/-- A line that has an equality sign and is not silent has a key and a value. -/
theorem exists_hasPair (notSilent : ¬ IsSilent line) (sign : '=' ∈ trim line) :
    ∃ key word, HasPair line key word := by
  obtain ⟨front, back, cut, first⟩ := List.eq_append_cons_of_mem sign
  refine ⟨String.ofList (trim front), String.ofList (stripQuotes (trim back)), notSilent, front,
    back, cut, first, String.toList_ofList.symm, ?_⟩
  rw [String.toList_ofList]
  exact stripQuotes_eq_iff.1 rfl

theorem ofLine_of_assigns (h : Assigns line assignment) : ofLine line = .ok (some assignment) := by
  obtain ⟨key, word, pair, chooses⟩ := h
  rw [ofLine_of_hasPair pair, ofPair_of_chooses chooses]
  rfl

theorem ofLine_of_refuses (h : Refuses line error) : ofLine line = .error error := by
  cases h with
  | malformed notSilent noSign => exact ofLine_of_notMem notSilent noSign
  | rejected pair rejects =>
    rw [ofLine_of_hasPair pair, ofPair_of_rejects rejects]
    rfl

/-- A line is silent, makes a choice, or is refused. -/
theorem line_cases (line : List Char) :
    IsSilent line ∨ (∃ assignment, Assigns line assignment) ∨ ∃ error, Refuses line error := by
  by_cases silent : IsSilent line
  · exact .inl silent
  by_cases sign : '=' ∈ trim line
  · obtain ⟨key, word, pair⟩ := exists_hasPair silent sign
    rcases pair_cases key word with ⟨assignment, chooses⟩ | ⟨error, rejects⟩
    · exact .inr (.inl ⟨assignment, key, word, pair, chooses⟩)
    · exact .inr (.inr ⟨error, .rejected pair rejects⟩)
  · exact .inr (.inr ⟨_, .malformed silent sign⟩)

/-- The choice that a line makes is the one that is read. -/
theorem ofLine_eq_some_iff : ofLine line = .ok (some assignment) ↔ Assigns line assignment := by
  refine ⟨fun read => ?_, ofLine_of_assigns⟩
  rcases line_cases line with silent | ⟨other, assigns⟩ | ⟨error, refuses⟩
  · cases (ofLine_of_isSilent silent).symm.trans read
  · cases (ofLine_of_assigns assigns).symm.trans read
    exact assigns
  · cases (ofLine_of_refuses refuses).symm.trans read

/-- The reason for which a line is refused is the one that is reported. -/
theorem ofLine_eq_error_iff : ofLine line = .error error ↔ Refuses line error := by
  refine ⟨fun read => ?_, ofLine_of_refuses⟩
  rcases line_cases line with silent | ⟨assignment, assigns⟩ | ⟨other, refuses⟩
  · cases (ofLine_of_isSilent silent).symm.trans read
  · cases (ofLine_of_assigns assigns).symm.trans read
  · cases (ofLine_of_refuses refuses).symm.trans read
    exact refuses

/-- The lines that are refused are those that say something and make no choice. -/
theorem exists_refuses_iff :
    (∃ error, Refuses line error) ↔
      ¬ IsSilent line ∧ ∀ assignment, ¬ Assigns line assignment := by
  constructor
  · rintro ⟨error, refuses⟩
    have read := ofLine_of_refuses refuses
    refine ⟨fun silent => ?_, fun assignment assigns => ?_⟩
    · cases (ofLine_of_isSilent silent).symm.trans read
    · cases (ofLine_of_assigns assigns).symm.trans read
  · rintro ⟨notSilent, noChoice⟩
    rcases line_cases line with silent | ⟨assignment, assigns⟩ | refused
    · exact absurd silent notSilent
    · exact absurd assigns (noChoice assignment)
    · exact refused

end Assignment

end LineShell
