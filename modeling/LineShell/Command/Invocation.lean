import LineShell.Text.Words

/-!
# Invocations

A line calls a command: its first word names the command and the others are the operands. The line
with one space between the words is its normal form.
-/

namespace LineShell

/-- A command word and its operands. -/
structure Invocation where
  /-- The word that names the command. -/
  name : String
  /-- The operands, in order. -/
  operands : List String
  deriving DecidableEq, Repr

namespace Invocation

/-- What a line calls; a line without words calls nothing. -/
def ofLine? (line : String) : Option Invocation :=
  match Text.words line with
  | [] => none
  | name :: operands => some ⟨name, operands⟩

/-- The line with one space between the words. -/
def normalized (invocation : Invocation) : String :=
  " ".intercalate (invocation.name :: invocation.operands)

end Invocation

end LineShell
