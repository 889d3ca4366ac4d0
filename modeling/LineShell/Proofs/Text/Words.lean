import Mathlib.Data.List.DropRight
import Mathlib.Data.List.SplitBy
import LineShell.Command.Invocation

/-!
# Words have letters

The words of a line are the runs without blanks, and no run is empty. So a word has a letter that is
not blank, whatever the blanks of the line are (`of_mem_words`), a line has words unless it is blank
throughout (`words_eq_nil_iff`), and the normal form of a line that calls a command is not blank
throughout (`trim_normalized_ne_nil`). What begins and ends with letters is what is left when the
blanks around it are trimmed (`IsTight.trim_append`).

A line can be read in parts that are cut between a letter and a blank (`words_append`). Words that are
joined by single spaces begin and end with letters (`isSpaced_intercalate`) and are read as they were
(`words_intercalate`), so that a line and its normal form call the same (`ofLine?_normalized`).
-/

namespace LineShell

namespace Text

variable {text front core back : List Char} {line word : String}

theorem trim_eq_nil_iff : trim text = [] ↔ ∀ c ∈ text, isBlank c = true := by
  have idem : dropBlanks (dropBlanks text) = dropBlanks text :=
    List.dropWhile_idempotent isBlank text
  calc
    trim text = [] ↔ dropBlanks (dropBlanks text).reverse = [] := List.reverse_eq_nil_iff
    _ ↔ ∀ c ∈ dropBlanks text, isBlank c = true := by
      rw [dropBlanks, List.dropWhile_eq_nil_iff]
      simp only [List.mem_reverse]
    -- What is left by the first cut starts with a letter, if there is anything left.
    _ ↔ dropBlanks (dropBlanks text) = [] := List.dropWhile_eq_nil_iff.symm
    _ ↔ ∀ c ∈ text, isBlank c = true := by rw [idem, dropBlanks, List.dropWhile_eq_nil_iff]

/-- Blanks in front of a letter are dropped. -/
theorem dropBlanks_append (blank : ∀ c ∈ front, isBlank c = true)
    (stops : ∀ c ∈ text.head?, isBlank c = false) : dropBlanks (front ++ text) = text := by
  rw [dropBlanks, List.dropWhile_append_of_pos blank]
  cases text with
  | nil => rfl
  | cons c rest => rw [List.dropWhile_cons_of_neg (by simp [stops c rfl])]

/-- A text that begins and ends with letters. -/
structure IsTight (text : List Char) : Prop where
  /-- There is a letter. -/
  ne_nil : text ≠ []
  /-- No blank is in front. -/
  first : ∀ c ∈ text.head?, isBlank c = false
  /-- No blank is at the end. -/
  last : ∀ c ∈ text.getLast?, isBlank c = false

namespace IsTight

/-- Blanks around a text are trimmed, and no more. -/
theorem trim_append (h : IsTight core) (blankFront : ∀ c ∈ front, isBlank c = true)
    (blankBack : ∀ c ∈ back, isBlank c = true) : trim (front ++ core ++ back) = core := by
  have fromFront : dropBlanks (front ++ core ++ back) = core ++ back := by
    rw [List.append_assoc]
    apply dropBlanks_append blankFront
    rw [List.head?_append_of_ne_nil _ h.ne_nil]
    exact h.first
  have fromBack : dropBlanks (back.reverse ++ core.reverse) = core.reverse := by
    apply dropBlanks_append
    · exact fun c mem => blankBack c (List.mem_reverse.1 mem)
    · rw [List.head?_reverse]
      exact h.last
  rw [trim, fromFront, List.reverse_append, fromBack, List.reverse_reverse]

theorem trim_eq (h : IsTight core) : trim core = core := by
  have trimmed : trim ([] ++ core ++ []) = core := h.trim_append nofun nofun
  rwa [List.nil_append, List.append_nil] at trimmed

end IsTight

/-- A word is not empty and has no blanks. -/
theorem of_mem_words (h : word ∈ words line) :
    word.toList ≠ [] ∧ ∀ c ∈ word.toList, isBlank c = false := by
  obtain ⟨run, mem, rfl⟩ := List.mem_map.1 h
  obtain ⟨isRun, noBlank⟩ := List.mem_filter.1 mem
  rw [String.toList_ofList]
  refine ⟨List.ne_nil_of_mem_splitBy isRun, fun c letter => ?_⟩
  simp only [isBlankRun, Bool.not_eq_true', List.any_eq_false, Bool.not_eq_true] at noBlank
  exact noBlank c letter

/-- Neighbours are both blank or both not if all characters are, or none is. -/
theorem isChain_alike_iff :
    text.IsChain (fun c d => (isBlank c == isBlank d) = true) ↔
      (∀ c ∈ text, isBlank c = true) ∨ ∀ c ∈ text, isBlank c = false := by
  let Alike (c d : Char) : Prop := (isBlank c == isBlank d) = true
  have : Trans Alike Alike Alike :=
    ⟨fun one other => beq_iff_eq.2 ((beq_iff_eq.1 one).trans (beq_iff_eq.1 other))⟩
  constructor
  · intro chain
    cases text with
    | nil => exact .inl nofun
    | cons first rest =>
      -- All that follow are like the first one.
      have alike : ∀ c ∈ first :: rest, isBlank c = isBlank first := by
        rintro c (_ | ⟨_, later⟩)
        · rfl
        · have same : Alike first c := (List.pairwise_cons.1 chain.pairwise).1 c later
          exact (beq_iff_eq.1 same).symm
      cases blank : isBlank first with
      | true => exact .inl fun c mem => (alike c mem).trans blank
      | false => exact .inr fun c mem => (alike c mem).trans blank
  · have alike : ∀ {blank : Bool}, (∀ c ∈ text, isBlank c = blank) → text.IsChain Alike := by
      intro blank all
      refine List.Pairwise.isChain (List.pairwise_of_forall_mem_list fun c isC d isD => ?_)
      exact beq_iff_eq.2 ((all c isC).trans (all d isD).symm)
    exact fun all => all.elim alike alike

/-- A run with a blank in it has blanks only. -/
private theorem isBlank_of_isBlankRun {run : List Char} (isRun : run ∈ runs text)
    (blank : isBlankRun run = true) : ∀ c ∈ run, isBlank c = true := by
  obtain ⟨d, mem, blank⟩ := List.any_eq_true.1 blank
  refine (isChain_alike_iff.1 (List.isChain_of_mem_splitBy isRun)).resolve_right fun letters => ?_
  rw [letters d mem] at blank
  cases blank

theorem words_eq_nil_iff : words line = [] ↔ ∀ c ∈ line.toList, isBlank c = true := by
  have flat : (runs line.toList).flatten = line.toList := List.flatten_splitBy _ _
  rw [words, List.map_eq_nil_iff, List.filter_eq_nil_iff]
  constructor
  · intro blank c letter
    rw [← flat] at letter
    obtain ⟨run, isRun, mem⟩ := List.mem_flatten.1 letter
    exact isBlank_of_isBlankRun isRun (by simpa using blank run isRun) c mem
  · intro blank run isRun
    obtain ⟨c, mem⟩ := List.exists_mem_of_ne_nil _ (List.ne_nil_of_mem_splitBy isRun)
    have letter : c ∈ line.toList := flat ▸ List.mem_flatten_of_mem isRun mem
    have isBlank : isBlankRun run = true := List.any_eq_true.2 ⟨c, mem, blank c letter⟩
    simp [isBlank]

/-- A text that is blank throughout has no words. -/
theorem trim_toList_eq_nil_iff : trim line.toList = [] ↔ words line = [] := by
  rw [trim_eq_nil_iff, words_eq_nil_iff]

/-! ## Joined words -/

/-- A text that is read as one word. -/
def IsWord (word : String) : Prop :=
  word.toList ≠ [] ∧ ∀ c ∈ word.toList, isBlank c = false

instance (word : String) : Decidable (IsWord word) :=
  have := List.decidableBAll (isBlank · = false) word.toList
  inferInstanceAs (Decidable (_ ∧ _))

/-- A space separates words. -/
theorem isBlank_space : isBlank ' ' = true := by
  decide

/-- There is no blank in a word. -/
theorem IsWord.notMem (h : IsWord word) {c : Char} (blank : isBlank c = true) : c ∉ word.toList := by
  intro mem
  rw [h.2 c mem] at blank
  cases blank

theorem IsWord.isTight (h : IsWord word) : IsTight word.toList :=
  ⟨h.1, fun c first => h.2 c (List.mem_of_mem_head? first),
    fun c last => h.2 c (List.mem_of_mem_getLast? last)⟩

private theorem runs_of_isWord (h : IsWord word) : runs word.toList = [word.toList] :=
  List.splitBy_of_isChain h.1 (isChain_alike_iff.2 (.inr h.2))

private theorem isBlankRun_of_isWord (h : IsWord word) : isBlankRun word.toList = false := by
  simpa [isBlankRun] using h.2

theorem words_of_isWord (h : IsWord word) : words word = [word] := by
  rw [words, runs_of_isWord h, List.filter_cons_of_pos (by simp [isBlankRun_of_isWord h])]
  simp

/-- No run goes on from a blank to a letter or back, so a line can be read in two parts where it is cut
between them. -/
theorem words_append {front rest : String}
    (apart : ∀ c ∈ front.toList.getLast?, ∀ d ∈ rest.toList.head?, isBlank c ≠ isBlank d) :
    words (front ++ rest) = words front ++ words rest := by
  have cut : runs (front ++ rest).toList = runs front.toList ++ runs rest.toList := by
    rw [String.toList_append]
    refine List.splitBy_append fun c last d first => ?_
    exact beq_eq_false_iff_ne.2 (apart c last d first)
  simp only [words, cut, List.filter_append, List.map_append]

/-- A word that a space ends is the first one, and what follows the space is read by itself. -/
theorem words_append_space {rest : String} (h : IsWord word)
    (starts : ∀ c ∈ rest.toList.head?, isBlank c = false) :
    words (word ++ " " ++ rest) = word :: words rest := by
  have ended : words (word ++ " ") = words word ++ words " " := by
    apply words_append
    intro c last d first
    obtain rfl : ' ' = d := Option.some.inj first
    rw [h.2 c (List.mem_of_mem_getLast? last), isBlank_space]
    exact Bool.false_ne_true
  have whole : words (word ++ " " ++ rest) = words (word ++ " ") ++ words rest := by
    apply words_append
    intro c last d first
    obtain rfl : ' ' = c := by simpa using last
    rw [starts d first, isBlank_space]
    exact Bool.false_ne_true.symm
  have blank : words " " = [] := words_eq_nil_iff.2 (by simp [isBlank_space])
  rw [whole, ended, words_of_isWord h, blank, List.append_nil, List.singleton_append]

/-- A text that begins and ends with letters, and in which each blank stands alone. -/
structure IsSpaced (text : List Char) : Prop where
  /-- No blank is in front or at the end. -/
  isTight : IsTight text
  /-- Of two neighbours one is a letter. -/
  apart : text.IsChain fun c d => isBlank c = false ∨ isBlank d = false

namespace IsSpaced

theorem of_isWord (h : IsWord word) : IsSpaced word.toList where
  isTight := h.isTight
  apart := List.Pairwise.isChain (List.pairwise_of_forall_mem_list fun c mem _ _ => .inl (h.2 c mem))

/-- A word and a space can be put in front. -/
theorem append (h : IsWord word) (spaced : IsSpaced text) :
    IsSpaced (word.toList ++ ' ' :: text) where
  isTight := {
    ne_nil := by simp
    first := by
      rw [List.head?_append_of_ne_nil _ h.1]
      exact h.isTight.first
    last := by
      rw [List.getLast?_append_of_ne_nil _ (by simp), List.getLast?_cons_of_ne_nil spaced.isTight.ne_nil]
      exact spaced.isTight.last }
  apart := by
    refine List.isChain_append.2 ⟨(of_isWord h).apart, ?_, ?_⟩
    · -- The space is followed by the letter that the text begins with.
      exact List.isChain_cons.2 ⟨fun d first => .inr (spaced.isTight.first d first), spaced.apart⟩
    · exact fun c last d _ => .inl (h.2 c (List.mem_of_mem_getLast? last))

section Blanks

variable (spaced : IsSpaced text) {c d : Char} (blank : isBlank c = true)

include spaced blank

theorem head?_ne : text.head? ≠ some c := by
  intro first
  have letter := spaced.isTight.first c first
  rw [blank] at letter
  cases letter

theorem getLast?_ne : text.getLast? ≠ some c := by
  intro last
  have letter := spaced.isTight.last c last
  rw [blank] at letter
  cases letter

theorem not_doubled (nextBlank : isBlank d = true) : ¬ [c, d] <:+: text := by
  intro doubled
  have apart := spaced.apart.infix doubled
  simp [blank, nextBlank] at apart

end Blanks

end IsSpaced

/-- Words with single spaces between them. -/
theorem isSpaced_intercalate {pieces : List String} (notNil : pieces ≠ [])
    (h : ∀ word ∈ pieces, IsWord word) : IsSpaced (" ".intercalate pieces).toList := by
  induction pieces with
  | nil => exact absurd rfl notNil
  | cons word later ih =>
    obtain ⟨isWord, areWords⟩ := List.forall_mem_cons.1 h
    by_cases last : later = []
    · rw [last, String.intercalate_singleton]
      exact .of_isWord isWord
    · have written : (" ".intercalate (word :: later)).toList =
          word.toList ++ ' ' :: (" ".intercalate later).toList := by
        rw [String.intercalate_cons_of_ne_nil last, String.append_assoc, String.toList_append,
          String.toList_append]
        rfl
      rw [written]
      exact .append isWord (ih last areWords)

/-- Words with single spaces between them are read as these words. -/
theorem words_intercalate {pieces : List String} (h : ∀ word ∈ pieces, IsWord word) :
    words (" ".intercalate pieces) = pieces := by
  induction pieces with
  | nil => rfl
  | cons word later ih =>
    obtain ⟨isWord, areWords⟩ := List.forall_mem_cons.1 h
    by_cases last : later = []
    · rw [last, String.intercalate_singleton, words_of_isWord isWord]
    · have starts := (isSpaced_intercalate last areWords).isTight.first
      rw [String.intercalate_cons_of_ne_nil last, words_append_space isWord starts, ih areWords]

/-- What is joined by single spaces holds no other characters than these and those of the pieces. -/
theorem of_mem_toList_intercalate {c : Char} {pieces : List String}
    (h : c ∈ (" ".intercalate pieces).toList) : c = ' ' ∨ ∃ piece ∈ pieces, c ∈ piece.toList := by
  induction pieces with
  | nil => simp at h
  | cons piece later ih =>
    by_cases last : later = []
    · rw [last, String.intercalate_singleton] at h
      exact .inr ⟨piece, List.mem_cons_self, h⟩
    · rw [String.intercalate_cons_of_ne_nil last, String.toList_append, String.toList_append] at h
      rcases List.mem_append.1 h with front | onward
      · rcases List.mem_append.1 front with here | space
        · exact .inr ⟨piece, List.mem_cons_self, here⟩
        · exact .inl (by simpa using space)
      · exact (ih onward).imp_right fun ⟨other, mem, holds⟩ =>
          ⟨other, List.mem_cons_of_mem _ mem, holds⟩

end Text

namespace Invocation

variable {invocation : Invocation} {line : String}

theorem ofLine?_eq_some_iff :
    ofLine? line = some invocation ↔ Text.words line = invocation.name :: invocation.operands := by
  rw [ofLine?]
  cases Text.words line with
  | nil => simp
  | cons name operands =>
    obtain ⟨calledName, calledOperands⟩ := invocation
    rw [Option.some.injEq, List.cons.injEq, Invocation.mk.injEq]

theorem ofLine?_eq_none_iff : ofLine? line = none ↔ ∀ c ∈ line.toList, Text.isBlank c = true := by
  rw [← Text.words_eq_nil_iff, ofLine?]
  cases Text.words line with
  | nil => simp
  | cons name operands => simp

theorem isSome_ofLine?_iff :
    (ofLine? line).isSome = true ↔ ∃ c ∈ line.toList, Text.isBlank c = false := by
  rw [Option.isSome_iff_ne_none, ne_eq, ofLine?_eq_none_iff]
  simp

/-- What a line calls is called by words. -/
theorem isWord_of_ofLine? (h : ofLine? line = some invocation) :
    ∀ word ∈ invocation.name :: invocation.operands, Text.IsWord word := by
  rw [← ofLine?_eq_some_iff.1 h]
  exact fun word mem => Text.of_mem_words mem

/-- The normal form of a line that calls something is its words with single spaces between them. -/
theorem isSpaced_normalized (h : ofLine? line = some invocation) :
    Text.IsSpaced invocation.normalized.toList :=
  Text.isSpaced_intercalate (List.cons_ne_nil _ _) (isWord_of_ofLine? h)

/-- The normal form of a line with a word is not blank. -/
theorem trim_normalized_ne_nil (h : ofLine? line = some invocation) :
    Text.trim invocation.normalized.toList ≠ [] := by
  have tight := (isSpaced_normalized h).isTight
  rw [tight.trim_eq]
  exact tight.ne_nil

/-- The normal form of a line calls what the line does. -/
theorem ofLine?_normalized (h : ofLine? line = some invocation) :
    ofLine? invocation.normalized = some invocation :=
  ofLine?_eq_some_iff.2 (Text.words_intercalate (isWord_of_ofLine? h))

/-- The only blank character of a normal form is the space. -/
theorem eq_space_of_mem_normalized {c : Char} (h : ofLine? line = some invocation)
    (mem : c ∈ invocation.normalized.toList) (blank : Text.isBlank c = true) : c = ' ' := by
  rcases Text.of_mem_toList_intercalate mem with space | ⟨word, isPart, letter⟩
  · exact space
  · exact absurd letter ((isWord_of_ofLine? h word isPart).notMem blank)

end Invocation

end LineShell
