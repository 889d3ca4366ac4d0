import LineShell.Path.Basic

/-!
# The home directory in paths

A path that is `~` or begins with `~/` starts at the home directory, if there is one. Slashes after
the tilde are no way out: `~//x` is below the home directory too. A name such as `~user` stands for
itself.
-/

namespace LineShell.Path

/-- The path that a text denotes, with a leading tilde replaced by the home directory. -/
def expandHome (home : Option Path) (text : String) : Path :=
  match home, text.toList with
  | some home, ['~'] => home
  | some home, '~' :: '/' :: rest =>
    ((rest.splitOn '/').filter (!·.isEmpty)).foldl
      (fun path part => path.entry (Text.encodeChars part)) home
  | _, _ => ofString text

end LineShell.Path
