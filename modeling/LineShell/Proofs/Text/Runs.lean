import LineShell.Proofs.Text.Words

/-!
# The runs of a line

A line is cut into gaps, which are blank throughout, and words, which have no blank, and the two take
turns. Its runs are such a cut, and there is no other one (`isCut_iff`). The words of the cut are those
that are read of the line (`IsCut.words_eq`).
-/

namespace LineShell.Text

variable {line part next : String} {parts : List String}

/-- A text that is blank throughout, and not empty. -/
def IsGap (text : String) : Prop :=
  text.toList ≠ [] ∧ ∀ c ∈ text.toList, isBlank c = true

/-- A line is cut into its maximal gaps and words. -/
structure IsCut (line : String) (parts : List String) : Prop where
  /-- The parts make up the line. -/
  join_eq : String.join parts = line
  /-- Each of them is a gap or a word. -/
  uniform : ∀ part ∈ parts, IsGap part ∨ IsWord part
  /-- Of two neighbours one is a gap and the other a word. -/
  takeTurns : parts.IsChain fun part next => ¬ (IsWord part ↔ IsWord next)

theorem isGap_or_isWord_iff :
    IsGap part ∨ IsWord part ↔ part.toList ≠ [] ∧
      part.toList.IsChain fun c d => (isBlank c == isBlank d) = true := by
  rw [isChain_alike_iff, IsGap, IsWord, ← and_or_left]

theorem IsGap.not_isWord (gap : IsGap part) : ¬ IsWord part := by
  intro word
  obtain ⟨c, mem⟩ := List.exists_mem_of_ne_nil _ gap.1
  exact word.notMem (gap.2 c mem) mem

/-- Any character of a part tells whether the part is a word. -/
theorem isBlank_eq_false_iff {c : Char} (uniform : IsGap part ∨ IsWord part)
    (mem : c ∈ part.toList) : isBlank c = false ↔ IsWord part := by
  constructor
  · intro letter
    refine uniform.resolve_left fun gap => ?_
    rw [gap.2 c mem] at letter
    cases letter
  · exact fun word => word.2 c mem

/-- Whether two parts take turns is seen where they meet. -/
private theorem differ_iff (uniform : IsGap part ∨ IsWord part)
    (nextUniform : IsGap next ∨ IsWord next) :
    (∃ (notNil : part.toList ≠ []) (nextNotNil : next.toList ≠ []),
      (isBlank (part.toList.getLast notNil) == isBlank (next.toList.head nextNotNil)) = false) ↔
      ¬ (IsWord part ↔ IsWord next) := by
  have notNil := (isGap_or_isWord_iff.1 uniform).1
  have nextNotNil := (isGap_or_isWord_iff.1 nextUniform).1
  rw [← isBlank_eq_false_iff uniform (List.getLast_mem notNil),
    ← isBlank_eq_false_iff nextUniform (List.head_mem nextNotNil)]
  simp [notNil, nextNotNil]

/-- The runs of a line are the only cut of the line. -/
theorem isCut_iff : IsCut line parts ↔ parts = (runs line.toList).map String.ofList := by
  have pieces : parts = (runs line.toList).map String.ofList ↔
      runs line.toList = parts.map String.toList := by
    constructor
    · rintro rfl
      simp
    · intro same
      simp [same]
  have whole : String.join parts = line ↔ line.toList = (parts.map String.toList).flatten := by
    rw [← String.toList_inj, String.toList_join, List.flatMap_def, eq_comm]
  have each : (∀ part ∈ parts, IsGap part ∨ IsWord part) ↔
      [] ∉ parts.map String.toList ∧ ∀ run ∈ parts.map String.toList,
        run.IsChain fun c d => (isBlank c == isBlank d) = true := by
    have notNil : [] ∉ parts.map String.toList ↔ ∀ part ∈ parts, part.toList ≠ [] := by
      simp [List.forall_mem_ne']
    rw [notNil, List.forall_mem_map, ← forall₂_and]
    exact forall₂_congr fun part _ => isGap_or_isWord_iff
  have meet : (∀ part ∈ parts, IsGap part ∨ IsWord part) →
      ((parts.IsChain fun part next => ∃ (notNil : part.toList ≠ []) (nextNotNil : next.toList ≠ []),
        (isBlank (part.toList.getLast notNil) == isBlank (next.toList.head nextNotNil)) = false) ↔
      parts.IsChain fun part next => ¬ (IsWord part ↔ IsWord next)) := fun uniform =>
    List.IsChain.iff_of_mem_imp fun part next isPart isNext =>
      differ_iff (uniform part isPart) (uniform next isNext)
  rw [pieces, runs, List.splitBy_eq_iff, ← whole, ← and_assoc (a := _ ∉ _), ← each,
    List.isChain_map]
  constructor
  · rintro ⟨join_eq, uniform, takeTurns⟩
    exact ⟨join_eq, uniform, (meet uniform).2 takeTurns⟩
  · rintro ⟨join_eq, uniform, takeTurns⟩
    exact ⟨join_eq, uniform, (meet uniform).1 takeTurns⟩

/-- A run that has no blank in it is a word. -/
theorem isWord_ofList_iff {text run : List Char} (isRun : run ∈ runs text) :
    IsWord (String.ofList run) ↔ isBlankRun run = false := by
  have notNil : run ≠ [] := List.ne_nil_of_mem_splitBy isRun
  simp [IsWord, isBlankRun, notNil]

/-- The words of a cut are the words of the line. -/
theorem IsCut.words_eq (h : IsCut line parts) : words line = parts.filter (IsWord ·) := by
  obtain rfl := isCut_iff.1 h
  rw [words, List.filter_map]
  congr 1
  refine List.filter_congr fun run isRun => ?_
  rw [Function.comp_apply, Bool.eq_iff_iff, decide_eq_true_iff, isWord_ofList_iff isRun,
    Bool.not_eq_true']

end LineShell.Text
