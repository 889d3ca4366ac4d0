import LineShell.Proofs.Text.Words

/-!
# The word at a position

A position in a line cuts it in two, and the first part ends in a word, which may be empty. That word
is read off from its end; the words of a line are read from the front. Both find the same words
(`WordAt.words_eq`): what stands before the word is empty or ends in a blank, so that no run goes on
across the place where the word begins. There is one such word at each position that does not cut
through the form of a character (`exists_wordAt`, `WordAt.splitLastWord_eq`).
-/

namespace LineShell.Text

variable {p : Char → Bool} {text front rest : List Char} {line before word after : String}
  {position : Nat}

/-- A text is cut behind the last character that stops: the rest goes on throughout, and what is left
is empty or ends in a character that stops. -/
theorem cut_iff :
    (text.rdropWhile p, text.rtakeWhile p) = (front, rest) ↔
      text = front ++ rest ∧ (∀ c ∈ rest, p c = true) ∧ ∀ c ∈ front.getLast?, p c = false := by
  rw [Prod.mk.injEq]
  constructor
  · rintro ⟨rfl, rfl⟩
    refine ⟨List.rdropWhile_append_rtakeWhile.symm, fun c => List.mem_rtakeWhile_imp, fun c last => ?_⟩
    have notNil : text.rdropWhile p ≠ [] := by
      intro empty
      rw [empty] at last
      cases last
    have stops := List.rdropWhile_last_not p text notNil
    rw [List.getLast?_eq_some_getLast notNil, Option.mem_some_iff] at last
    rwa [last, Bool.not_eq_true] at stops
  · rintro ⟨rfl, goesOn, stops⟩
    -- Read from its end, the text goes on as long as the rest does.
    have goesOnBack : ∀ c ∈ rest.reverse, p c = true := fun c mem => goesOn c (List.mem_reverse.1 mem)
    have stopsBack : ∀ c ∈ front.reverse.head?, p c = false := by rwa [List.head?_reverse]
    rw [List.rdropWhile, List.rtakeWhile, List.reverse_append, List.dropWhile_append_of_pos goesOnBack,
      List.takeWhile_append_of_pos goesOnBack]
    cases back : front.reverse with
    | nil => simpa using back
    | cons c more =>
      have stop : p c = false := stopsBack c (by simp [back])
      rw [List.dropWhile_cons_of_neg (by simp [stop]), List.takeWhile_cons_of_neg (by simp [stop]),
        ← back]
      simp

/-- The last word of a text has no blanks, and what stands before it is empty or ends in one. -/
theorem splitLastWord_eq_iff :
    splitLastWord text = (front, rest) ↔
      text = front ++ rest ∧ (∀ c ∈ rest, isBlank c = false) ∧
        ∀ c ∈ front.getLast?, isBlank c = true := by
  have goesOn : (∀ c ∈ rest, isBlank c = false) ↔ ∀ c ∈ rest, (!isBlank c) = true := by simp
  have stops : (∀ c ∈ front.getLast?, isBlank c = true) ↔
      ∀ c ∈ front.getLast?, (!isBlank c) = false := by
    simp
  rw [goesOn, stops]
  exact cut_iff

/-! ## Positions -/

theorem byteLength_toList (text : String) : byteLength text.toList = text.utf8ByteSize := by
  have sizes : ∀ chars : List Char, byteLength chars = (String.ofList chars).utf8ByteSize := by
    intro chars
    induction chars with
    | nil => rfl
    | cons c rest ih =>
      rw [byteLength, ih]
      simp
  rw [sizes, String.ofList_toList]

/-- The beginning of a text is as long as it is. -/
theorem takeBytes_append (front rest : List Char) :
    takeBytes (byteLength front) (front ++ rest) = front := by
  induction front with
  | nil =>
    cases rest with
    | nil => rfl
    | cons c rest => simp [takeBytes, byteLength, Nat.ne_of_gt c.utf8Size_pos]
  | cons c front ih =>
    rw [byteLength, List.cons_append, takeBytes, if_pos (Nat.le_add_right _ _),
      Nat.add_sub_cancel_left, ih]

/-- At a position of a line, in bytes, there is a word that has been begun: what stands before it,
its beginning up to the position, and what stands after that. -/
structure WordAt (line : String) (position : Nat) (before word after : String) : Prop where
  /-- The three parts are the line. -/
  line_eq : line = before ++ word ++ after
  /-- The position is where the beginning of the word ends. -/
  position_eq : (before ++ word).utf8ByteSize = position
  /-- There is no blank in the word. -/
  noBlank : ∀ c ∈ word.toList, isBlank c = false
  /-- It begins with the line or behind a blank. -/
  begins : ∀ c ∈ before.toList.getLast?, isBlank c = true

/-- What the word at a position is can be read off from the line up to the position. -/
theorem WordAt.splitLastWord_eq (h : WordAt line position before word after) :
    splitLastWord (takeBytes position line.toList) = (before.toList, word.toList) := by
  have typed : takeBytes position line.toList = before.toList ++ word.toList := by
    calc
      takeBytes position line.toList =
          takeBytes (byteLength (before ++ word).toList)
            ((before ++ word).toList ++ after.toList) := by
        rw [← String.toList_append, ← h.line_eq, byteLength_toList, h.position_eq]
      _ = (before ++ word).toList := takeBytes_append _ _
      _ = before.toList ++ word.toList := String.toList_append
  rw [typed]
  exact splitLastWord_eq_iff.2 ⟨rfl, h.noBlank, h.begins⟩

/-- There is a word at each boundary between characters. -/
theorem exists_wordAt (boundary : (⟨position⟩ : String.Pos.Raw).IsValid line) :
    ∃ before word after, WordAt line position before word after := by
  obtain ⟨typed, after, rfl, cut⟩ := String.Pos.Raw.isValid_iff_exists_append.1 boundary
  obtain ⟨front, rest, split⟩ : ∃ front rest, splitLastWord typed.toList = (front, rest) :=
    ⟨_, _, rfl⟩
  obtain ⟨whole, noBlank, begins⟩ := splitLastWord_eq_iff.1 split
  have parts : typed = String.ofList front ++ String.ofList rest := by
    rw [← String.ofList_append, ← whole, String.ofList_toList]
  -- What stands after the position does not matter to the word that ends there.
  refine ⟨String.ofList front, String.ofList rest, after, ?_, ?_, ?_, ?_⟩
  · rw [parts]
  · rw [← parts]
    exact (congrArg String.Pos.Raw.byteIdx cut).symm
  · rwa [String.toList_ofList]
  · rwa [String.toList_ofList]

/-! ## The words before a position -/

/-- A text without blanks is no word or one. -/
theorem words_of_noBlank (noBlank : ∀ c ∈ word.toList, isBlank c = false) :
    words word = if word = "" then [] else [word] := by
  split_ifs with empty
  · rw [empty]
    rfl
  · exact words_of_isWord ⟨by simpa using empty, noBlank⟩

/-- Behind a blank, what has no blanks is read by itself. -/
theorem words_append_of_noBlank (begins : ∀ c ∈ before.toList.getLast?, isBlank c = true)
    (noBlank : ∀ c ∈ word.toList, isBlank c = false) :
    words (before ++ word) = words before ++ if word = "" then [] else [word] := by
  rw [← words_of_noBlank noBlank]
  apply words_append
  intro c last d first
  rw [begins c last, noBlank d (List.mem_of_mem_head? first)]
  exact Bool.false_ne_true.symm

namespace WordAt

variable (h : WordAt line position before word after)

include h

/-- The words up to a position are those before the word at the position, and that word. -/
theorem words_eq : words (before ++ word) = words before ++ if word = "" then [] else [word] :=
  words_append_of_noBlank h.begins h.noBlank

/-- If the word at a position is typed on, it is the one word of the line if there is none before it.
-/
theorem words_eq_nil_iff {more : String} (noBlank : ∀ c ∈ more.toList, isBlank c = false)
    (typed : word ++ more ≠ "") :
    words before = [] ↔
      Invocation.ofLine? (before ++ (word ++ more)) = some ⟨word ++ more, []⟩ := by
  have grown : ∀ c ∈ (word ++ more).toList, isBlank c = false := by
    intro c mem
    rw [String.toList_append] at mem
    exact (List.mem_append.1 mem).elim (h.noBlank c) (noBlank c)
  rw [Invocation.ofLine?_eq_some_iff, words_append_of_noBlank h.begins grown, if_neg typed]
  simp

end WordAt

end LineShell.Text
