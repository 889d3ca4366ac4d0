import Mathlib.Data.List.Basic
import LineShell.Flags

/-!
# Adding flags that only concern what is told

Arguments are read one after the other, so that reading goes on after those that have been read
(`parse_append`). Of all flags, `--debug` and `--quiet` say only how much the program tells. Adding
them among the other arguments leaves the rest as it was: it is accepted if it was, and it asks for
the same (`parse_insert`).
-/

namespace LineShell.Flags

/-- Flags that ask for the same as some others, and for no less with `--debug` and `--quiet`. -/
structure Covers (more less : Flags) : Prop where
  config : more.config = less.config
  help : more.help = less.help
  version : more.version = less.version
  debug : less.debug = true → more.debug = true
  quiet : less.quiet = true → more.quiet = true

/-- The arguments that only say how much the program tells. -/
def tellingArguments : List String :=
  [Flag.quiet, Flag.debug].flatMap fun flag => [flag.short, flag.long]

variable {more less flags later : Flags} {front back : List String} {argument : String}

/-! ## Reading on -/

/-- Arguments that are read go on with the flags that those before them have set. -/
theorem parse_append (parsed : parse flags front = (later, none)) (back : List String) :
    parse flags (front ++ back) = parse later back := by
  fun_induction parse flags front with
  | case1 flags =>
    cases parsed
    rfl
  -- The arguments in front are read, so that none of them is wrong or lacks its value.
  | case2 flags argument rest unknown => cases parsed
  | case3 flags argument flag known takes => cases parsed
  | case4 flags argument flag known takes value rest ih =>
    rw [List.cons_append, List.cons_append, parse, known]
    simpa [takes] using ih parsed
  | case5 flags argument rest flag known takes ih =>
    rw [List.cons_append, parse, known]
    simpa [takes] using ih parsed

/-! ## Flags that cover others -/

theorem Covers.refl (flags : Flags) : flags.Covers flags :=
  ⟨rfl, rfl, rfl, id, id⟩

theorem Covers.trans {least : Flags} (h : more.Covers less) (below : less.Covers least) :
    more.Covers least :=
  ⟨h.config.trans below.config, h.help.trans below.help, h.version.trans below.version,
    h.debug ∘ below.debug, h.quiet ∘ below.quiet⟩

/-- One more flag is set in both. -/
theorem Covers.set (h : more.Covers less) (flag : Flag) (value : String) :
    (more.set flag value).Covers (less.set flag value) := by
  obtain ⟨config, help, version, debug, quiet⟩ := h
  cases flag with
  | config => exact ⟨rfl, help, version, debug, quiet⟩
  | debug => exact ⟨config, help, version, fun _ => rfl, quiet⟩
  | help => exact ⟨config, rfl, version, debug, quiet⟩
  | quiet => exact ⟨config, help, version, debug, fun _ => rfl⟩
  | version => exact ⟨config, help, rfl, debug, quiet⟩

/-- The same arguments are read in the same way. -/
theorem covers_parse (h : more.Covers less) (arguments : List String) :
    (parse more arguments).1.Covers (parse less arguments).1 ∧
      (parse more arguments).2 = (parse less arguments).2 := by
  fun_induction parse less arguments generalizing more with
  | case1 less => exact ⟨h, rfl⟩
  | case2 less argument rest unknown =>
    rw [Flags.parse, unknown]
    exact ⟨h, rfl⟩
  | case3 less argument flag known takes =>
    rw [Flags.parse, known]
    simpa [takes] using h
  | case4 less argument flag known takes value rest ih =>
    rw [Flags.parse, known]
    simpa [takes] using ih (h.set flag value)
  | case5 less argument rest flag known takes ih =>
    rw [Flags.parse, known]
    simpa [takes] using ih (h.set flag "")

/-! ## Adding flags -/

theorem exists_parse_of_mem_tellingArguments (h : argument ∈ tellingArguments) :
    ∃ flag, Flag.find? argument = some flag ∧ flag.takesValue = false ∧
      ∀ flags : Flags, (flags.set flag "").Covers flags := by
  have found : Flag.find? argument = some .quiet ∨ Flag.find? argument = some .debug := by
    revert argument
    decide
  rcases found with found | found
  · exact ⟨.quiet, found, rfl, fun flags => ⟨rfl, rfl, rfl, id, fun _ => rfl⟩⟩
  · exact ⟨.debug, found, rfl, fun flags => ⟨rfl, rfl, rfl, fun _ => rfl, id⟩⟩

theorem parse_of_subset_tellingArguments {added : List String} (h : added ⊆ tellingArguments)
    (flags : Flags) : (parse flags added).1.Covers flags ∧ (parse flags added).2 = none := by
  induction added generalizing flags with
  | nil => exact ⟨.refl flags, rfl⟩
  | cons argument rest ih =>
    rw [List.cons_subset] at h
    obtain ⟨flag, known, takesNone, covers⟩ := exists_parse_of_mem_tellingArguments h.1
    obtain ⟨later, accepted⟩ := ih h.2 (flags.set flag "")
    rw [parse, known]
    simp only [takesNone, Bool.false_eq_true, if_false]
    exact ⟨later.trans (covers flags), accepted⟩

/-- Arguments that only say how much the program tells can be added wherever an argument ends. -/
theorem parse_insert {added : List String} (telling : added ⊆ tellingArguments)
    (ends : (parse {} front).2 = none) (back : List String) :
    (parse {} (front ++ added ++ back)).1.Covers (parse {} (front ++ back)).1 ∧
      (parse {} (front ++ added ++ back)).2 = (parse {} (front ++ back)).2 := by
  have read : parse {} front = ((parse {} front).1, none) := Prod.ext rfl ends
  obtain ⟨covers, accepted⟩ := parse_of_subset_tellingArguments telling (parse {} front).1
  have reads : parse (parse {} front).1 added = ((parse (parse {} front).1 added).1, none) :=
    Prod.ext rfl accepted
  -- Both readings come to the end of the front; then one of them sets what is added.
  rw [List.append_assoc, parse_append read, parse_append read, parse_append reads]
  exact covers_parse covers back

end LineShell.Flags
