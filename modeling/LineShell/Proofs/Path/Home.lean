import LineShell.Path.Home
import LineShell.Proofs.Path.Reading
import LineShell.Proofs.Text.Lines

/-!
# Where operands lead as they are written

A text without a tilde at its start is written as it stands (`expandHome_eq_ofString`); behind a tilde
the path of the home directory is continued (`foldFrom_expandHome_tilde`). So it makes no difference
whether a text is taken as a whole or cut in two at a slash (`foldFrom_expandHome_append`). In
particular this is so for where a path leads from a location by what is written alone
(`arrivalFrom`).
-/

namespace LineShell.Path

/-- Without a home directory, or a tilde that is alone or followed by a slash, nothing is replaced. -/
theorem expandHome_eq_ofString {home : Option Path} {text : String}
    (stays : home = none ∨ text.toList ≠ ['~'] ∧ ¬ ['~', '/'] <+: text.toList) :
    expandHome home text = ofString text := by
  rcases stays with rfl | ⟨notTilde, notBelow⟩
  · simp only [expandHome]
  · unfold expandHome
    split
    · exact absurd ‹_› notTilde
    · rename_i spelled
      exact absurd (by simp [spelled]) notBelow
    · rfl

theorem expandHome_of_head? {text : String} (home : Option Path)
    (noTilde : text.toList.head? ≠ some '~') : expandHome home text = ofString text := by
  refine expandHome_eq_ofString (.inr ⟨fun lone => noTilde ?_, fun begins => noTilde ?_⟩)
  · rw [lone]
    rfl
  · obtain ⟨rest, spelled⟩ := begins
    rw [← spelled]
    rfl

/-- A tilde is no slash, so that in an absolute path there is nothing to replace. -/
theorem expandHome_of_isAbsolute {text : String} (home : Option Path)
    (absolute : (ofString text).isAbsolute = true) : expandHome home text = ofString text := by
  refine expandHome_of_head? home fun tilde => ?_
  obtain ⟨rest, spelled⟩ := List.head?_eq_some_iff.1 tilde
  have first : (ofString text).bytes.head? = some 0x7E := by
    rw [ofString, Text.encode, spelled]
    rfl
  simp [isAbsolute, first, slash] at absolute

/-- A text spells an absolute path only if it begins with a slash. -/
theorem isAbsolute_ofString_of_head? {text : String} (noSlash : text.toList.head? ≠ some '/') :
    (ofString text).isAbsolute = false := by
  rw [isAbsolute, decide_eq_false_iff_not, ofString, Text.encode]
  cases chars : text.toList with
  | nil => simp [Text.encodeChars]
  | cons c rest =>
    intro starts
    -- The first byte is one of the first character, and only a slash is written with that byte.
    have form : Text.encodeChars (c :: rest) = String.utf8EncodeChar c ++ Text.encodeChars rest := rfl
    rw [form, List.head?_append_of_ne_nil _ String.utf8EncodeChar_ne_nil] at starts
    have mem : UInt8.ofNat '/'.toNat ∈ String.utf8EncodeChar c := List.mem_of_mem_head? starts
    rw [chars, Text.eq_of_ascii_mem mem (by decide)] at noSlash
    exact noSlash rfl

/-- A tilde alone is the home directory. -/
theorem expandHome_tilde {home : Path} {text : String} (lone : text.toList = ['~']) :
    expandHome (some home) text = home := by
  unfold expandHome
  simp only [lone]

/-! ## Texts that are cut in two -/

variable {β : Type} {take : β → Step → β} {root : β} {home : Path} {text : String}
  {rest : List Char}

/-- Behind a tilde and a slash, the path of the home directory is continued. -/
theorem foldFrom_expandHome_tilde (still : ∀ place, take place .empty = place)
    (written : text.toList = '~' :: '/' :: rest) (start : β) :
    (expandHome (some home) text).foldFrom take root start =
      (Path.mk (Text.encodeChars rest)).steps.foldl take (home.foldFrom take root start) := by
  -- The text is cut as characters and the path as bytes, which are the same parts.
  have cut : (Text.encodeChars rest).splitOn slash = (rest.splitOn '/').map Text.encodeChars :=
    Text.splitOn_encodeChars '/' (by decide) rest
  have sameEmpty : ((!·.isEmpty) ∘ Text.encodeChars : List Char → Bool) = (!·.isEmpty) := by
    funext part
    rw [Function.comp_apply, Bool.eq_iff_iff]
    simp [Text.encodeChars_eq_nil_iff]
  rw [← foldFrom_foldl_entry still, cut, List.filter_map, sameEmpty, List.foldl_map]
  unfold expandHome
  simp only [written]

/-- Slashes at the start of a text are empty steps. -/
theorem foldl_steps_dropWhile (still : ∀ place, take place .empty = place) (text : List Char)
    (start : β) :
    (Path.mk (Text.encodeChars (text.dropWhile (· = '/')))).steps.foldl take start =
      (Path.mk (Text.encodeChars text)).steps.foldl take start := by
  induction text with
  | nil => rfl
  | cons c rest ih =>
    by_cases isSlash : c = '/'
    · subst isSlash
      have onward : (Path.mk (Text.encodeChars ('/' :: rest))).steps =
          .empty :: (Path.mk (Text.encodeChars rest)).steps :=
        steps_append_slash_cons [] _
      rw [List.dropWhile_cons_of_pos (by simp), ih, onward, List.foldl_cons, still]
    · rw [List.dropWhile_cons_of_neg (by simpa using isSlash)]

/-- A tilde that is replaced in a text with a slash is replaced in the part before the slash too. -/
theorem stays_append {front : String} (rest : String) (notEmpty : front.toList ≠ [])
    (stays : front.toList ≠ ['~'] ∧ ¬ ['~', '/'] <+: front.toList) :
    (front ++ "/" ++ rest).toList ≠ ['~'] ∧ ¬ ['~', '/'] <+: (front ++ "/" ++ rest).toList := by
  have spelled : (front ++ "/" ++ rest).toList = front.toList ++ '/' :: rest.toList := by simp
  obtain ⟨first, later, chars⟩ := List.exists_cons_of_ne_nil notEmpty
  rw [spelled]
  rw [chars] at stays ⊢
  refine ⟨by simp, fun begins => ?_⟩
  -- The tilde is the first character of the part, and the slash behind it is the second, or there is
  -- none.
  obtain ⟨rfl, below⟩ := List.cons_prefix_cons.1 begins
  cases later with
  | nil => exact stays.1 rfl
  | cons second more =>
    obtain ⟨rfl, -⟩ := List.cons_prefix_cons.1 below
    exact stays.2 (by simp)

/-- A text with a slash in it goes on from what the part before the slash has left. -/
theorem foldFrom_expandHome_append (still : ∀ place, take place .empty = place) (home : Option Path)
    {front : String} (rest : String) (notEmpty : front.toList ≠ []) (start : β) :
    (expandHome home (front ++ "/" ++ rest)).foldFrom take root start =
      (ofString rest).steps.foldl take ((expandHome home front).foldFrom take root start) := by
  have spelled : (front ++ "/" ++ rest).toList = front.toList ++ '/' :: rest.toList := by simp
  have encoded : ∀ before : List Char, Text.encodeChars (before ++ '/' :: rest.toList) =
      Text.encodeChars before ++ slash :: Text.encode rest := by
    intro before
    rw [Text.encodeChars_append]
    rfl
  by_cases stays : home = none ∨ front.toList ≠ ['~'] ∧ ¬ ['~', '/'] <+: front.toList
  · -- Nothing is replaced in the part, nor in the whole text.
    have staysWhole := stays.imp_right (stays_append rest notEmpty)
    have starts : (ofString (front ++ "/" ++ rest)).isAbsolute = (ofString front).isAbsolute := by
      rw [ofString, Text.encode, spelled, encoded, isAbsolute, isAbsolute,
        List.head?_append_of_ne_nil _ (by simpa [Text.encodeChars_eq_nil_iff] using notEmpty)]
      rfl
    rw [expandHome_eq_ofString stays, expandHome_eq_ofString staysWhole, foldFrom, starts,
      foldFrom, ← List.foldl_append]
    congr 1
    rw [ofString, Text.encode, spelled, encoded, steps_append_slash_cons]
    rfl
  · rw [not_or, not_and_or, not_not, not_not] at stays
    obtain ⟨known, tilde⟩ := stays
    obtain ⟨home, rfl⟩ := Option.ne_none_iff_exists'.1 known
    rcases tilde with lone | ⟨below, chars⟩
    · -- The rest is what stands behind the tilde.
      have whole : (front ++ "/" ++ rest).toList = '~' :: '/' :: rest.toList := by
        rw [spelled, lone]
        rfl
      rw [foldFrom_expandHome_tilde still whole, expandHome_tilde lone]
      rfl
    · have chars : front.toList = '~' :: '/' :: below := chars.symm
      have whole : (front ++ "/" ++ rest).toList = '~' :: '/' :: (below ++ '/' :: rest.toList) := by
        rw [spelled, chars]
        rfl
      rw [foldFrom_expandHome_tilde still whole, foldFrom_expandHome_tilde still chars, encoded,
        steps_append_slash_cons, List.foldl_append]
      rfl

/-! ## Where a path leads -/

/-- Where a path leads from a location by what is written alone; an absolute one starts at the root. -/
def arrivalFrom (path : Path) (loc : Location) : Location :=
  path.foldFrom advance [] loc

@[simp]
theorem arrivalFrom_nil (path : Path) : path.arrivalFrom [] = path.arrival := by
  rw [arrivalFrom, foldFrom, ite_self, arrival]

/-- What continues a path leads on from where the path leads. -/
theorem arrivalFrom_join (path next : Path) (loc : Location) :
    (path.join next).arrivalFrom loc = next.arrivalFrom (path.arrivalFrom loc) :=
  foldFrom_join (fun _ => rfl) path next loc

end LineShell.Path
