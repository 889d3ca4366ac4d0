import LineShell.Proofs.Text.Utf8
import LineShell.Text.Lines

/-!
# Lines of an encoded text

A line feed and a carriage return stand for themselves in UTF-8 and occur in the form of no other
character. So it makes no difference whether a text is cut into lines before it is encoded or
afterwards (`lines_encode`). A line that stands in a text is found among its lines
(`HasLine.exists_lines`).
-/

namespace LineShell.Text

open String (utf8EncodeChar)

/-- The lines of a text. -/
def textLines (text : String) : List String :=
  (lines '\n' '\r' text.toList).map String.ofList

variable {text : List Char}

/-- A character below 0x80 is the only one with its byte. -/
theorem eq_of_ascii_mem {c ascii : Char} (h : UInt8.ofNat ascii.toNat ∈ utf8EncodeChar c)
    (low : ascii.toNat < 0x80) : c = ascii := by
  have small : (UInt8.ofNat ascii.toNat).toNat = ascii.toNat := by
    rw [UInt8.toNat_ofNat']
    exact Nat.mod_eq_of_lt (by omega)
  have same := (eq_of_mem_utf8EncodeChar h (by omega)).2
  rw [← c.ofNat_toNat, same, small, ascii.ofNat_toNat]

theorem encodeChars_eq_nil_iff : encodeChars text = [] ↔ text = [] := by
  cases text with
  | nil => simp [encodeChars]
  | cons c rest => simp [encodeChars, String.utf8EncodeChar_ne_nil]

/-- A byte below 0x80 in an encoded text stands for its character. -/
theorem mem_of_mem_encodeChars {ascii : Char} (h : UInt8.ofNat ascii.toNat ∈ encodeChars text)
    (low : ascii.toNat < 0x80) : ascii ∈ text := by
  obtain ⟨c, mem, form⟩ := List.mem_flatMap.1 h
  rwa [eq_of_ascii_mem form low] at mem

private theorem splitOn_append_of_notMem {feed : UInt8} {front : Bytes} (h : feed ∉ front)
    (rest : Bytes) :
    (front ++ rest).splitOn feed = (rest.splitOn feed).modifyHead (front ++ ·) := by
  have pieces := List.splitOn_ne_nil feed rest
  induction front with
  | nil =>
    cases cut : rest.splitOn feed with
    | nil => exact absurd cut pieces
    | cons first later => simp [cut]
  | cons byte front ih =>
    rw [List.mem_cons, not_or] at h
    rw [List.cons_append, List.splitOn_cons_eq_if_modifyHead, if_neg (by simpa using Ne.symm h.1),
      ih h.2, List.modifyHead_modifyHead]
    rfl

/-- Cutting an encoded text at the byte of a character below 0x80 cuts the text at the character. -/
theorem splitOn_encodeChars (ascii : Char) (low : ascii.toNat < 0x80) (text : List Char) :
    (encodeChars text).splitOn (UInt8.ofNat ascii.toNat) = (text.splitOn ascii).map encodeChars := by
  induction text with
  | nil => rfl
  | cons c rest ih =>
    have form : encodeChars (c :: rest) = utf8EncodeChar c ++ encodeChars rest := rfl
    rw [form, List.splitOn_cons_eq_if_modifyHead]
    by_cases same : c = ascii
    · subst same
      have alone : utf8EncodeChar c = [UInt8.ofNat c.toNat] := by
        rcases utf8EncodeChar_cases c with ⟨-, form⟩ | ⟨high, -⟩ | ⟨high, -⟩ | ⟨high, -⟩
        · exact form
        all_goals omega
      rw [if_pos (by simp), List.map_cons, ← ih, alone, List.singleton_append,
        List.splitOn_cons_eq_if_modifyHead, if_pos (by simp)]
      rfl
    · have notMem : UInt8.ofNat ascii.toNat ∉ utf8EncodeChar c := fun mem =>
        same (eq_of_ascii_mem mem low)
      -- None of the bytes of another character is that byte, so that all go to the first piece.
      rw [if_neg (by simpa using same), splitOn_append_of_notMem notMem, ih]
      cases rest.splitOn ascii with
      | nil => rfl
      | cons first later => rfl

/-- A carriage return at the end of a line is one in its encoded form. -/
private theorem dropReturn_encodeChars (line : List Char) :
    dropReturn 0x0D (encodeChars line) = encodeChars (dropReturn '\r' line) := by
  rcases List.eq_nil_or_concat line with rfl | ⟨front, c, rfl⟩
  · rfl
  rw [List.concat_eq_append]
  have form : encodeChars (front ++ [c]) = encodeChars front ++ utf8EncodeChar c := by
    rw [encodeChars_append]
    simp [encodeChars]
  unfold dropReturn
  by_cases ret : c = '\r'
  · subst ret
    have written : encodeChars (front ++ ['\r']) = encodeChars front ++ [0x0D] := form
    rw [written, if_pos List.getLast?_concat, if_pos List.getLast?_concat, List.dropLast_concat,
      List.dropLast_concat]
  · have notLast : (encodeChars (front ++ [c])).getLast? ≠ some 0x0D := by
      intro last
      rw [form, List.getLast?_append_of_ne_nil _ String.utf8EncodeChar_ne_nil] at last
      exact ret (eq_of_ascii_mem (List.mem_of_getLast? last) (by decide))
    rw [if_neg notLast, if_neg (by simpa using ret)]

private theorem lines_encodeChars (text : List Char) :
    lines 0x0A 0x0D (encodeChars text) = (lines '\n' '\r' text).map encodeChars := by
  have sameEmpty : ∀ piece : List Char, (encodeChars piece).isEmpty = piece.isEmpty := by
    intro piece
    rw [Bool.eq_iff_iff, List.isEmpty_iff, List.isEmpty_iff, encodeChars_eq_nil_iff]
  have cut : (encodeChars text).splitOn 0x0A = (text.splitOn '\n').map encodeChars :=
    splitOn_encodeChars '\n' (by decide) text
  unfold lines
  simp only [cut, List.map_append]
  congr 1
  -- All pieces but the last one are lines that a line feed ends.
  · rw [← List.map_dropLast, List.map_map, List.map_map]
    exact List.map_congr_left fun piece _ => dropReturn_encodeChars piece
  · rw [List.getLast?_map, Option.toList_map, List.filter_map]
    congr 2
    exact funext fun piece => congrArg not (sameEmpty piece)

/-- The lines of an encoded text are the encoded lines of the text. -/
theorem lines_encode (text : String) :
    lines 0x0A 0x0D (encode text) = (textLines text).map encode := by
  have form : encode ∘ String.ofList = encodeChars := by
    funext chars
    rw [Function.comp_apply, encode, String.toList_ofList]
  rw [encode, lines_encodeChars, textLines, List.map_map, form]

/-- What stands between line feeds is part of the text. -/
private theorem subset_of_mem_splitOn {piece : List Char} (h : piece ∈ text.splitOn '\n') :
    piece ⊆ text := by
  induction text generalizing piece with
  | nil =>
    rw [List.splitOn_nil, List.mem_singleton] at h
    exact h ▸ List.Subset.refl _
  | cons c rest ih =>
    rw [List.splitOn_cons_eq_if_modifyHead] at h
    split_ifs at h
    · rcases List.mem_cons.1 h with rfl | later
      · exact List.nil_subset _
      · exact List.subset_cons_of_subset c (ih later)
    · -- The first piece grows by the character, and the others are those of the rest.
      cases cut : rest.splitOn '\n' with
      | nil => exact absurd cut (List.splitOn_ne_nil _ _)
      | cons first later =>
        rw [cut] at h ih
        rcases List.mem_cons.1 h with rfl | mem
        · exact List.cons_subset_cons c (ih List.mem_cons_self)
        · exact List.subset_cons_of_subset c (ih (List.mem_cons_of_mem _ mem))

/-- The characters of the lines of a text are characters of the text. -/
theorem subset_of_mem_textLines {text line : String} (h : line ∈ textLines text) :
    line.toList ⊆ text.toList := by
  obtain ⟨chars, mem, rfl⟩ := List.mem_map.1 h
  rw [String.toList_ofList]
  rcases List.mem_append.1 mem with ended | last
  · obtain ⟨piece, isPiece, rfl⟩ := List.mem_map.1 ended
    have within := subset_of_mem_splitOn (List.dropLast_subset _ isPiece)
    unfold dropReturn
    split_ifs
    · exact List.Subset.trans (List.dropLast_subset _) within
    · exact within
  · have isPiece := List.mem_of_getLast? (Option.mem_toList.1 (List.mem_filter.1 last).1)
    exact subset_of_mem_splitOn isPiece

/-! ## A line in a text -/

section Parts

variable {α : Type} [DecidableEq α] {feed ret : α} {line : List α}

/-- What follows a line feed is cut into lines by itself. -/
theorem lines_append_feed (front rest : List α) :
    lines feed ret (front ++ feed :: rest) =
      (front.splitOn feed).map (dropReturn ret) ++ lines feed ret rest := by
  have pieces := List.splitOn_ne_nil feed rest
  unfold lines
  simp only [List.splitOn_append_cons_self, List.dropLast_append_of_ne_nil pieces,
    List.getLast?_append_of_ne_nil _ pieces, List.map_append, List.append_assoc]

theorem lines_nil : lines feed ret [] = [] := by
  simp [lines]

/-- A text that starts after a line feed goes on with lines of its own. -/
theorem lines_append {front : List α} (ended : front = [] ∨ ∃ earlier, front = earlier ++ [feed])
    (rest : List α) :
    lines feed ret (front ++ rest) = lines feed ret front ++ lines feed ret rest := by
  rcases ended with rfl | ⟨earlier, rfl⟩
  · rw [lines_nil, List.nil_append, List.nil_append]
  · rw [List.append_assoc, List.singleton_append, lines_append_feed, lines_append_feed, lines_nil,
      List.append_nil]

/-- A line feed ends a line. -/
theorem lines_append_feed_of_notMem (h : feed ∉ line) (rest : List α) :
    lines feed ret (line ++ feed :: rest) = dropReturn ret line :: lines feed ret rest := by
  rw [lines_append_feed, List.splitOn_eq_singleton h, List.map_singleton, List.singleton_append]

/-- What no line feed ends is a line, unless it is empty. -/
theorem lines_of_notMem (h : feed ∉ line) (notNil : line ≠ []) : lines feed ret line = [line] := by
  simp [lines, List.splitOn_eq_singleton h, notNil]

end Parts

/-- How a line ends before the rest of a text. -/
inductive LineEnd : String → String → Prop
  | feed (rest : String) : LineEnd "\n" rest
  | returnFeed (rest : String) : LineEnd "\r\n" rest
  /-- The last line needs no line feed. -/
  | none : LineEnd "" ""

/-- A text that has a line in it, with what comes after the line. -/
structure HasLine (text line rest : String) : Prop where
  /-- The line starts where the text does or after a line feed. -/
  exists_parts : ∃ front ending, (front = "" ∨ ∃ earlier, front = earlier ++ "\n") ∧
    LineEnd ending rest ∧ text = front ++ line ++ ending ++ rest

/-- A line in a text is one of its lines, if it could be told from what ends it. -/
theorem HasLine.exists_lines {text line rest : String} (h : HasLine text line rest)
    (notEmpty : line ≠ "") (noFeed : '\n' ∉ line.toList)
    (noReturn : line.toList.getLast? ≠ some '\r') :
    ∃ earlier, lines '\n' '\r' text.toList =
      earlier ++ line.toList :: lines '\n' '\r' rest.toList := by
  obtain ⟨front, ending, starts, ends, rfl⟩ := h.exists_parts
  have startsLine : front.toList = [] ∨ ∃ earlier, front.toList = earlier ++ ['\n'] := by
    rcases starts with rfl | ⟨earlier, rfl⟩
    · exact .inl rfl
    · exact .inr ⟨earlier.toList, String.toList_append⟩
  have onward : lines '\n' '\r' (line.toList ++ ending.toList ++ rest.toList) =
      line.toList :: lines '\n' '\r' rest.toList := by
    cases ends with
    | feed =>
      have kept : dropReturn '\r' line.toList = line.toList := if_neg noReturn
      have form : line.toList ++ "\n".toList ++ rest.toList =
          line.toList ++ '\n' :: rest.toList := by simp
      rw [form, lines_append_feed_of_notMem noFeed, kept]
    | returnFeed =>
      have dropped : dropReturn '\r' (line.toList ++ ['\r']) = line.toList := by
        rw [dropReturn, if_pos List.getLast?_concat, List.dropLast_concat]
      have form : line.toList ++ "\r\n".toList ++ rest.toList =
          line.toList ++ ['\r'] ++ '\n' :: rest.toList := by simp
      have notMem : '\n' ∉ line.toList ++ ['\r'] := by simpa using noFeed
      rw [form, lines_append_feed_of_notMem notMem, dropped]
    | none =>
      have form : line.toList ++ "".toList ++ "".toList = line.toList := by simp
      have notNil : line.toList ≠ [] := by simpa using notEmpty
      rw [form, lines_of_notMem noFeed notNil]
      rfl
  refine ⟨lines '\n' '\r' front.toList, ?_⟩
  rw [← onward, ← lines_append startsLine]
  simp only [String.toList_append, List.append_assoc]

end LineShell.Text
