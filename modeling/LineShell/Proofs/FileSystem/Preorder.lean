import LineShell.Proofs.FileSystem.Update

/-!
# What stands below a location, in order

The *ways* from a location down to the entries below it, each the list of names from the entry back
up to that location. They are listed in preorder, a directory before what it holds and the entries
of a directory in ascending order of their names:

- `mem_ways`: every entry that is not too deep has its way in the list, and nothing else has;
- `pairwise_ways`: the list ascends, so that no way is in it twice and each comes after the way to
  the directory above;
- `countP_ways`: the files among the entries are as many as the map of entries has there.
-/

namespace LineShell.FileSystem

variable {fs later : FileSystem} {loc top way other : Location} {name : Name} {depth : Nat}

/-! ## The order of the ways -/

/-- One way down comes before another: it is the beginning of it, or at the first step where they
differ its name is the smaller one. -/
def Precedes (a b : Location) : Prop :=
  compare a.reverse b.reverse = .lt

private theorem compare_self (a : List Name) : compare a a = .eq :=
  Std.ReflOrd.compare_self

theorem not_precedes_self (a : Location) : ¬ Precedes a a := by
  rw [Precedes, compare_self]
  decide

theorem Precedes.trans {a b c : Location} (first : Precedes a b) (second : Precedes b c) :
    Precedes a c :=
  Std.TransCmp.lt_trans first second

theorem Precedes.asymm {a b : Location} (h : Precedes a b) : ¬ Precedes b a := fun back =>
  not_precedes_self a (h.trans back)

private theorem compare_append (front a b : List Name) :
    compare (front ++ a) (front ++ b) = compare a b := by
  induction front with
  | nil => rfl
  | cons first rest ih =>
    rw [List.cons_append, List.cons_append, List.compare_cons_cons, ih, Std.ReflOrd.compare_self]
    rfl

/-- A directory comes before all that is below it. -/
theorem precedes_below (below : Location) (name : Name) (way : Location) :
    Precedes way (below ++ name :: way) := by
  have unfolded : (below ++ name :: way).reverse = way.reverse ++ name :: below.reverse := by simp
  rw [Precedes, unfolded]
  calc
    compare way.reverse (way.reverse ++ name :: below.reverse)
      = compare (way.reverse ++ []) (way.reverse ++ name :: below.reverse) := by
        rw [List.append_nil]
    _ = compare [] (name :: below.reverse) := compare_append _ _ _
    _ = .lt := List.compare_nil_cons

/-- What is above the end of a way comes before it. -/
theorem precedes_of_ne_nil (notNil : way ≠ []) : Precedes way.tail way := by
  cases way with
  | nil => exact absurd rfl notNil
  | cons name parent => exact precedes_below [] name parent

/-- What is below one entry of a directory comes before what is below an entry of a greater name. -/
theorem precedes_of_names {first second : Name} (h : compare first second = .lt)
    (below below' way : Location) :
    Precedes (below ++ first :: way) (below' ++ second :: way) := by
  have unfolded : ∀ (name : Name) (below : Location),
      (below ++ name :: way).reverse = way.reverse ++ name :: below.reverse := by simp
  rw [Precedes, unfolded, unfolded, compare_append, List.compare_cons_cons, h]
  rfl

/-! ## The names in a directory -/

/-- The names in a directory ascend. -/
theorem pairwise_names (fs : FileSystem) (loc : Location) :
    (fs.names loc).Pairwise fun a b => compare a b = .lt := by
  refine Std.ExtTreeMap.ordered_keys.filterMap _ ?_
  intro a b ascending first hfirst second hsecond
  -- Both locations are one name longer than the same one, so their first names decide.
  obtain rfl : a = first :: loc := by
    rcases a with _ | ⟨name, parent⟩
    · simp at hfirst
    · simpa [and_comm] using hfirst
  obtain rfl : b = second :: loc := by
    rcases b with _ | ⟨name, parent⟩
    · simp at hsecond
    · simpa [and_comm] using hsecond
  rwa [List.compare_cons_cons, compare_self, Ordering.then_eq] at ascending

/-- In a list of names that ascend there is none twice. -/
theorem nodup_of_ascending {names : List Name}
    (ascending : names.Pairwise fun a b => compare a b = .lt) : names.Nodup := by
  refine ascending.imp ?_
  rintro a b less rfl
  rw [Std.ReflOrd.compare_self] at less
  cases less

/-- Lists of names that ascend are the same if they have the same names. -/
theorem eq_of_ascending {names others : List Name}
    (ascending : names.Pairwise fun a b => compare a b = .lt)
    (ascendingToo : others.Pairwise fun a b => compare a b = .lt)
    (same : ∀ name, name ∈ names ↔ name ∈ others) : names = others := by
  refine List.Perm.eq_of_pairwise ?_ ascending ascendingToo ?_
  · intro a b _ _ less greater
    have self := Std.TransCmp.lt_trans less greater
    rw [Std.ReflOrd.compare_self] at self
    cases self
  · exact (List.perm_ext_iff_of_nodup (nodup_of_ascending ascending)
      (nodup_of_ascending ascendingToo)).2 same

/-- Directories that hold entries of the same names list the same names. -/
theorem names_congr
    (h : ∀ name, fs.entry? (name :: loc) = none ↔ later.entry? (name :: loc) = none) :
    fs.names loc = later.names loc := by
  refine eq_of_ascending (pairwise_names fs loc) (pairwise_names later loc) fun name => ?_
  rw [mem_names_iff, mem_names_iff, not_iff_not]
  exact h name

/-! ## The ways down -/

/-- The way to one entry below a location, and the ways to what is at most so many names below that
entry, in preorder. -/
def ways (fs : FileSystem) (top : Location) : Nat → Location → List Location
  | 0, way => [way]
  | depth + 1, way =>
    way :: (fs.names (way ++ top)).flatMap fun name => fs.ways top depth (name :: way)

/-- What is above an entry is an entry. -/
theorem entry?_ne_none_of_append (below : Location) (h : fs.entry? (below ++ loc) ≠ none) :
    fs.entry? loc ≠ none := by
  obtain ⟨found, stands⟩ := Option.ne_none_iff_exists'.1 h
  by_cases here : below = []
  · rwa [here, List.nil_append] at h
  · simp [entry?_of_suffix stands here]

theorem mem_ways_self : way ∈ fs.ways top depth way := by
  cases depth with
  | zero => exact List.mem_singleton_self way
  | succ depth => exact List.mem_cons_self

theorem suffix_of_mem_ways (h : other ∈ fs.ways top depth way) : way <:+ other := by
  induction depth generalizing way with
  | zero => simp_all [ways]
  | succ depth ih =>
    rw [ways, List.mem_cons, List.mem_flatMap] at h
    rcases h with rfl | ⟨name, -, below⟩
    · exact List.suffix_refl _
    · exact (List.suffix_cons name way).trans (ih below)

/-- The list has the ways to the entries below that are not too deep, and no others. -/
theorem mem_ways (start : fs.entry? (way ++ top) ≠ none) :
    other ∈ fs.ways top depth way ↔
      way <:+ other ∧ other.length ≤ way.length + depth ∧ fs.entry? (other ++ top) ≠ none := by
  induction depth generalizing way with
  | zero =>
    rw [ways, List.mem_singleton, Nat.add_zero]
    constructor
    · rintro rfl
      exact ⟨List.suffix_refl _, Nat.le_refl _, start⟩
    · rintro ⟨below, short, -⟩
      exact (below.eq_of_length_le short).symm
  | succ depth ih =>
    rw [ways, List.mem_cons, List.mem_flatMap]
    constructor
    · rintro (rfl | ⟨name, listed, mem⟩)
      · exact ⟨List.suffix_refl _, Nat.le_add_right _ _, start⟩
      · obtain ⟨below, short, stands⟩ := (ih (mem_names_iff.1 listed)).1 mem
        rw [List.length_cons] at short
        exact ⟨(List.suffix_cons name way).trans below, by omega, stands⟩
    · rintro ⟨⟨below, rfl⟩, short, stands⟩
      -- The last name of `below` is that of the entry through which the way goes on.
      rcases List.eq_nil_or_concat' below with rfl | ⟨below, name, rfl⟩
      · exact .inl rfl
      · have regrouped : below ++ [name] ++ way = below ++ name :: way := by simp
        rw [regrouped] at short stands ih ⊢
        have onward : fs.entry? (name :: way ++ top) ≠ none :=
          entry?_ne_none_of_append below (by rwa [List.append_assoc] at stands)
        refine .inr ⟨name, mem_names_iff.2 onward, (ih onward).2 ⟨⟨below, rfl⟩, ?_, stands⟩⟩
        rw [List.length_append, List.length_cons] at short ⊢
        omega

/-- The ways are listed in ascending order. -/
theorem pairwise_ways (fs : FileSystem) (top : Location) (depth : Nat) (way : Location) :
    (fs.ways top depth way).Pairwise Precedes := by
  induction depth generalizing way with
  | zero => exact List.pairwise_singleton _ _
  | succ depth ih =>
    rw [ways, List.pairwise_cons, List.pairwise_flatMap]
    -- The directory comes first; its entries keep the order of their names.
    refine ⟨?_, fun name _ => ih (name :: way), ?_⟩
    · intro other mem
      obtain ⟨name, -, mem⟩ := List.mem_flatMap.1 mem
      obtain ⟨below, rfl⟩ := suffix_of_mem_ways mem
      exact precedes_below below name way
    · refine (pairwise_names fs (way ++ top)).imp ?_
      intro first second less a ha b hb
      obtain ⟨below, rfl⟩ := suffix_of_mem_ways ha
      obtain ⟨below', rfl⟩ := suffix_of_mem_ways hb
      exact precedes_of_names less below below' way

theorem nodup_ways (fs : FileSystem) (top : Location) (depth : Nat) (way : Location) :
    (fs.ways top depth way).Nodup := by
  refine (pairwise_ways fs top depth way).imp ?_
  rintro a b less rfl
  exact not_precedes_self a less

/-! ## Counting files -/

/-- Whether a file stands at a location. -/
def isFile (fs : FileSystem) (loc : Location) : Bool :=
  ((fs.entry? loc).bind Entry.file?).isSome

/-- The number of entries below a location that are files. -/
def fileCount (fs : FileSystem) (loc : Location) : Nat :=
  fs.toList.countP fun (other, found) => loc.isSuffixOf other && found.file?.isSome

/-- The ways to files are as many as the files that stand below. -/
theorem countP_ways (start : fs.entry? top ≠ none)
    (shallow : ∀ way, fs.entry? (way ++ top) ≠ none → way.length ≤ depth) :
    (fs.ways top depth []).countP (fun way => fs.isFile (way ++ top)) = fs.fileCount top := by
  -- Both lists name the locations of the files below, each once.
  rw [fileCount, List.countP_eq_length_filter, List.countP_eq_length_filter,
    ← List.length_map (· ++ top), ← List.length_map Prod.fst]
  refine (List.perm_ext_iff_of_nodup ?_ ?_).2 ?_ |>.length_eq
  · rw [List.Nodup, List.pairwise_map]
    refine ((nodup_ways fs top depth []).filter _).imp ?_
    intro a b other same
    exact other (List.append_cancel_right same)
  · rw [List.Nodup, List.pairwise_map]
    refine (Std.ExtTreeMap.distinct_keys_toList.filter _).imp ?_
    intro a b other same
    exact other (by rw [same, compare_self])
  · intro other
    simp only [List.mem_map, List.mem_filter, Bool.and_eq_true, List.isSuffixOf_iff_suffix,
      Prod.exists, exists_and_right, exists_eq_right]
    constructor
    · rintro ⟨way, ⟨-, file⟩, rfl⟩
      obtain ⟨id, names⟩ := Option.isSome_iff_exists.1 file
      obtain ⟨found, stands, names⟩ := Option.bind_eq_some_iff.1 names
      have notRoot : way ++ top ≠ [] := by
        intro root
        rw [root, entry?_nil, Option.some.injEq] at stands
        subst stands
        cases names
      exact ⟨found, mem_toList_iff.2 ⟨notRoot, stands⟩, List.suffix_append _ _, by simp [names]⟩
    · rintro ⟨found, mem, ⟨way, rfl⟩, file⟩
      have stands := (mem_toList_iff.1 mem).2
      have notNone : fs.entry? (way ++ top) ≠ none := by simp [stands]
      refine ⟨way, ⟨(mem_ways start).2 ⟨List.nil_suffix, ?_, notNone⟩, ?_⟩, rfl⟩
      · rw [List.length_nil, Nat.zero_add]
        exact shallow way notNone
      · rw [isFile, stands]
        exact file

end LineShell.FileSystem
