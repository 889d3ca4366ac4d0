import LineShell.Text.CodePoints

/-!
# Blank characters

The characters that separate words: those with the property `White_Space` of the Unicode
standard. The same test serves reading a line, completing it, colouring it and trimming the
lines of a settings file, so all of them agree on what a word is.
-/

namespace LineShell.Text

/-- The characters with the property `White_Space`, in ascending order. -/
def blankCodes : CodePoints :=
  [(0x09, 0x0D), (0x20, 0x20), (0x85, 0x85), (0xA0, 0xA0), (0x1680, 0x1680), (0x2000, 0x200A),
   (0x2028, 0x2029), (0x202F, 0x202F), (0x205F, 0x205F), (0x3000, 0x3000)]

/-- Whether a character separates words. -/
def isBlank (c : Char) : Bool :=
  blankCodes.has c

end LineShell.Text
