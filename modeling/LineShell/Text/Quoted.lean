import LineShell.Text.Mark
import LineShell.Text.Unprintable
import LineShell.Text.Utf8

/-!
# Quoted text

Text between quotes in which every character can be seen: those that could not, or that would end
the text or join another character, are written as escapes. In quoted bytes what is not text is
written byte by byte.
-/

namespace LineShell.Text

/-- A number in hexadecimal digits of the given case, with at least the given number of digits. -/
def hexadecimal (upper : Bool) (width value : Nat) : String :=
  let digits := (Nat.toDigits 16 value).map fun digit => if upper then digit.toUpper else digit
  String.ofList (List.replicate (width - digits.length) '0' ++ digits)

/-- A character between quotes. -/
def quoteChar (c : Char) : String :=
  if c = '\x00' then "\\0"
  else if c = '\t' then "\\t"
  else if c = '\n' then "\\n"
  else if c = '\r' then "\\r"
  else if c = '\\' ∨ c = '"' then "\\" ++ String.ofList [c]
  else if isMark c || isUnprintable c then "\\u\x7b" ++ hexadecimal false 1 c.toNat ++ "\x7d"
  else String.ofList [c]

/-- A text between quotes. -/
def quote (text : String) : String :=
  "\"" ++ String.join (text.toList.map quoteChar) ++ "\""

/-- Bytes between quotes. -/
def quoteBytes (bytes : Bytes) : String :=
  let shown := (decode bytes).map fun
    | .char c => quoteChar c
    | .defect wrong =>
      String.join (wrong.map fun byte => "\\x" ++ hexadecimal true 2 byte.toNat)
  "\"" ++ String.join shown ++ "\""

end LineShell.Text
