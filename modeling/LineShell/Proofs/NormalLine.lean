import LineShell.Proofs.Text.Runs

/-!
# Normal forms of lines

A line is read as its words, and all else that it has are blanks (`toList_join_words`). The normal form
has the same words with single spaces between them, so that it is read as the line is: two lines that
have one normal form call the same (`eq_of_normalized_eq`).

The main result is `hasCanonicalForm`.
-/

namespace LineShell

namespace Text

/-- What a line has besides its words is blank. -/
theorem toList_join_words (line : String) :
    (String.join (words line)).toList = line.toList.filter (!isBlank ·) := by
  obtain ⟨parts, cut⟩ : ∃ parts, IsCut line parts := ⟨_, isCut_iff.2 rfl⟩
  have uniform := cut.uniform
  rw [cut.words_eq, ← cut.join_eq]
  clear cut
  induction parts with
  | nil => rfl
  | cons part rest ih =>
    obtain ⟨here, later⟩ := List.forall_mem_cons.1 uniform
    have ih := ih later
    rw [String.join_cons, String.toList_append, List.filter_append, ← ih]
    rcases here with gap | word
    · -- Of a gap nothing is left.
      have nothing : part.toList.filter (!isBlank ·) = [] := by simpa using gap.2
      rw [nothing, List.filter_cons_of_neg (by simpa using gap.not_isWord), List.nil_append]
    · have whole : part.toList.filter (!isBlank ·) = part.toList := by simpa using word.2
      rw [whole, List.filter_cons_of_pos (by simpa using word), String.join_cons,
        String.toList_append]

end Text

namespace Invocation

variable {line : String} {invocation : Invocation}

/-- What a line calls is the line but for its blanks, and its normal form is a line for it. -/
structure HasCanonicalForm (line : String) (invocation : Invocation) : Prop where
  /-- The name and the operands are not empty and have no blanks. -/
  isWord : ∀ word ∈ invocation.name :: invocation.operands, Text.IsWord word
  /-- Together they are the line without its blanks. -/
  join_eq : String.join (invocation.name :: invocation.operands) =
    String.ofList (line.toList.filter (!Text.isBlank ·))
  /-- The normal form calls what the line does. -/
  readBack : ofLine? invocation.normalized = some invocation
  /-- No space is in front of it. -/
  noneInFront : invocation.normalized.toList.head? ≠ some ' '
  /-- No space is at its end. -/
  noneAtEnd : invocation.normalized.toList.getLast? ≠ some ' '
  /-- No space follows another one. -/
  noneDoubled : ¬ [' ', ' '] <:+: invocation.normalized.toList
  /-- There are no other blanks. -/
  onlySpaces : ∀ c ∈ invocation.normalized.toList, Text.isBlank c = true → c = ' '
  /-- Another line has the same normal form exactly if it calls the same. -/
  normalized_eq_iff : ∀ other call, ofLine? other = some call →
    (call.normalized = invocation.normalized ↔
      call.name = invocation.name ∧ call.operands = invocation.operands)

/-- The normal form is read back, so that it tells what is called. -/
theorem eq_of_normalized_eq {other : String} {call : Invocation}
    (called : ofLine? line = some invocation) (otherCalled : ofLine? other = some call)
    (same : call.normalized = invocation.normalized) : call = invocation := by
  have read := ofLine?_normalized otherCalled
  rw [same, ofLine?_normalized called] at read
  exact (Option.some.inj read).symm

/-- Whatever a line calls, and whatever the blanks in the line are, it has one normal form. -/
theorem hasCanonicalForm (called : ofLine? line = some invocation) :
    HasCanonicalForm line invocation where
  isWord := isWord_of_ofLine? called
  join_eq := by rw [← Text.toList_join_words, ofLine?_eq_some_iff.1 called, String.ofList_toList]
  readBack := ofLine?_normalized called
  noneInFront := (isSpaced_normalized called).head?_ne Text.isBlank_space
  noneAtEnd := (isSpaced_normalized called).getLast?_ne Text.isBlank_space
  noneDoubled := (isSpaced_normalized called).not_doubled Text.isBlank_space Text.isBlank_space
  onlySpaces _ mem blank := eq_space_of_mem_normalized called mem blank
  normalized_eq_iff other call otherCalled := by
    constructor
    · intro same
      rw [eq_of_normalized_eq called otherCalled same]
      exact ⟨rfl, rfl⟩
    · rintro ⟨sameName, sameOperands⟩
      rw [normalized, normalized, sameName, sameOperands]

/-- A line with wide and doubled blanks has the normal form of one with a tab. -/
theorem hasCanonicalForm_wideSpace :
    let line := "\u3000cp \t -r\u00A0a=\u200B  b\r"
    let invocation : Invocation := ⟨"cp", ["-r", "a=\u200B", "b"]⟩
    ofLine? line = some invocation ∧ invocation.normalized = "cp -r a=\u200B b" ∧
      HasCanonicalForm line invocation ∧ ofLine? "cp\t-r a=\u200B b" = some invocation := by
  intro line invocation
  have called : ofLine? line = some invocation := by decide +kernel
  exact ⟨called, by decide +kernel, hasCanonicalForm called, by decide +kernel⟩

end Invocation

end LineShell
