import LineShell.Text.Words

/-!
# Colours

Text is coloured by codes before and after it; nothing of the text itself changes. A palette either
colours by the codes that a terminal takes or leaves all text plain.
-/

namespace LineShell

/-- The codes that set the styles of text. -/
structure Styling where
  /-- The code for red text. -/
  red : String
  /-- The code for yellow text. -/
  yellow : String
  /-- The code for cyan text. -/
  cyan : String
  /-- The code for gray text. -/
  gray : String
  /-- The code for bold text. -/
  bold : String
  /-- The code that ends all styles. -/
  reset : String
  deriving DecidableEq, Repr

namespace Styling

/-- The word that calls a command: bold, and cyan when the command is known, red otherwise. -/
def commandWord (styling : Styling) (known : String → Bool) (word : String) : String :=
  (if known word then styling.cyan else styling.red) ++ styling.bold ++ word ++ styling.reset

/-- A word after the first: yellow when it is a flag. -/
def laterWord (styling : Styling) (word : String) : String :=
  if word.toList.head? = some '-' then styling.yellow ++ word ++ styling.reset else word

/-- The runs of a line with their colours, given whether the command word is still to come. -/
def paintRuns (styling : Styling) (known : String → Bool) : Bool → List (List Char) → String
  | _, [] => ""
  | first, run :: rest =>
    let text := String.ofList run
    if Text.isBlankRun run then text ++ paintRuns styling known first rest
    else
      (if first then styling.commandWord known text else styling.laterWord text) ++
        paintRuns styling known false rest

end Styling

/-- How text is coloured. -/
structure Palette where
  /-- The codes, if the palette colours at all. -/
  styling : Option Styling
  deriving DecidableEq, Repr

namespace Palette

/-- The palette that leaves text as it is. -/
def plain : Palette := ⟨none⟩

/-- The palette that colours text by some codes. -/
def styled (styling : Styling) : Palette := ⟨some styling⟩

/-- Whether the palette colours at all. -/
def enabled (palette : Palette) : Bool :=
  palette.styling.isSome

/-- An error message: bold and red. -/
def error (palette : Palette) (text : String) : String :=
  match palette.styling with
  | some styling => styling.red ++ styling.bold ++ text ++ styling.reset
  | none => text

/-- A hint after the cursor: gray. -/
def hint (palette : Palette) (text : String) : String :=
  match palette.styling with
  | some styling => styling.gray ++ text ++ styling.reset
  | none => text

/-- A command line: the command word and flags in their colours, blanks and other words as typed. -/
def line (palette : Palette) (known : String → Bool) (input : String) : String :=
  match palette.styling with
  | some styling => styling.paintRuns known true (Text.runs input.toList)
  | none => input

end Palette

end LineShell
