import LineShell.WorkingDirectory
import LineShell.Proofs.Path.Home

/-!
# The home directory in operands

A tilde stands for the home directory, whatever follows it: what is behind the slashes after a tilde
is looked for from the directory that the tilde alone denotes, and slashes do not lead back to the
root. Without a tilde alone or before a slash, and without a home directory, an operand stands for
itself. All of this is `tilde_means_home`, which asks nothing of the working directory or of the home
directory: either may be relative, and neither has to be normal.
-/

namespace LineShell.WorkingDirectory

/-- A text without the slashes that it starts with. -/
def withoutSlashes (text : String) : String :=
  String.ofList (text.toList.dropWhile (· = '/'))

theorem isAbsolute_withoutSlashes (text : String) :
    (Path.ofString (withoutSlashes text)).isAbsolute = false := by
  apply Path.isAbsolute_ofString_of_head?
  rw [withoutSlashes, String.toList_ofList]
  intro slashed
  have notSlash := List.head?_dropWhile_not (· = '/') text.toList
  simp [slashed] at notSlash

variable {current home : Path}

theorem resolve_tilde_alone (current home : Path) :
    resolve ⟨current, some home⟩ "~" = (current.join home).normalize := by
  rw [resolve, Path.expandHome_tilde rfl]

/-- A tilde alone leaves the steps of the home directory on those of the working directory. -/
theorem stack_resolve_tilde :
    (resolve ⟨current, some home⟩ "~").stack = home.foldFrom Path.Stack.push .root current.stack := by
  rw [resolve_tilde_alone, Path.stack_normalize, Path.stack_join]

theorem resolve_below_tilde (current home : Path) (rest : String) :
    let dir : WorkingDirectory := ⟨current, some home⟩
    dir.resolve ("~/" ++ rest) =
      ((dir.resolve "~").join (.ofString (withoutSlashes rest))).normalize := by
  intro dir
  have written : ("~/" ++ rest).toList = '~' :: '/' :: rest.toList := by simp
  -- Either way the steps behind the slashes are pushed onto those of the home directory.
  have sameStack : (current.join (Path.expandHome (some home) ("~/" ++ rest))).stack =
      ((dir.resolve "~").join (.ofString (withoutSlashes rest))).stack :=
    calc
      (current.join (Path.expandHome (some home) ("~/" ++ rest))).stack
        = (Path.expandHome (some home) ("~/" ++ rest)).foldFrom Path.Stack.push .root
            current.stack := Path.stack_join _ _
      _ = (Path.mk (Text.encodeChars rest.toList)).steps.foldl Path.Stack.push
            (dir.resolve "~").stack := by
          rw [Path.foldFrom_expandHome_tilde Path.Stack.push_empty written, stack_resolve_tilde]
      _ = (Path.ofString (withoutSlashes rest)).steps.foldl Path.Stack.push
            (dir.resolve "~").stack := by
          rw [← Path.foldl_steps_dropWhile Path.Stack.push_empty, Path.ofString, withoutSlashes,
            Text.encode, String.toList_ofList]
      _ = ((dir.resolve "~").join (.ofString (withoutSlashes rest))).stack := by
          rw [Path.stack_join, Path.foldFrom_of_relative (isAbsolute_withoutSlashes rest)]
  rw [resolve, Path.normalize_eq_path_stack, sameStack, ← Path.normalize_eq_path_stack]

/-- A tilde alone denotes the home directory, from the working directory on if it is relative, and what
follows a tilde and slashes is denoted from there. Any other text stands for itself, and without a home
directory so does every text. -/
theorem tilde_means_home :
    (∀ current home : Path,
      let dir : WorkingDirectory := ⟨current, some home⟩
      dir.resolve "~" = (current.join home).normalize ∧
        ∀ rest : String, dir.resolve ("~/" ++ rest) =
          ((dir.resolve "~").join (.ofString (withoutSlashes rest))).normalize) ∧
    (∀ (home : Option Path) (text : String), text ≠ "~" → ¬ "~/".toList <+: text.toList →
      Path.expandHome home text = .ofString text) ∧
    ∀ text : String, Path.expandHome none text = .ofString text := by
  refine ⟨fun current home => ⟨resolve_tilde_alone current home, resolve_below_tilde current home⟩,
    fun home text notTilde notBelow => ?_, fun text => Path.expandHome_eq_ofString (.inl rfl)⟩
  have notLone : text.toList ≠ ['~'] := fun lone => notTilde (String.toList_injective lone)
  exact Path.expandHome_eq_ofString (.inr ⟨notLone, notBelow⟩)

/-- Slashes behind the tilde do not lead out of a relative home directory, but `..` does; a name that
only begins with a tilde is left alone. -/
theorem tilde_means_home_relative :
    let dir : WorkingDirectory := ⟨.ofString "/a", some (.ofString "b/./c")⟩
    dir.resolve "~///../x//y/" = .ofString "/a/b/x/y" ∧
      ((dir.resolve "~").join (.ofString "../x//y/")).normalize = .ofString "/a/b/x/y" ∧
      "~user/x" ≠ "~" ∧ ¬ "~/".toList <+: "~user/x".toList ∧
      Path.expandHome dir.home "~user/x" = .ofString "~user/x" := by
  intro dir
  obtain ⟨below, others, -⟩ := tilde_means_home
  have whole : "~/" ++ "//../x//y/" = "~///../x//y/" := by decide +kernel
  have rest : withoutSlashes "//../x//y/" = "../x//y/" := by decide +kernel
  have denotes : ((dir.resolve "~").join (.ofString "../x//y/")).normalize = .ofString "/a/b/x/y" := by
    decide +kernel
  have joined := (below (.ofString "/a") (.ofString "b/./c")).2 "//../x//y/"
  rw [whole, rest] at joined
  have notTilde : "~user/x" ≠ "~" := by decide
  have notBelow : ¬ "~/".toList <+: "~user/x".toList := by decide +kernel
  exact ⟨joined.trans denotes, denotes, notTilde, notBelow, others dir.home _ notTilde notBelow⟩

end LineShell.WorkingDirectory
