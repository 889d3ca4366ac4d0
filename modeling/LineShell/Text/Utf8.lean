/-!
# UTF-8

Names and contents of files are bytes; lines and messages are text. A sequence of bytes decodes to
characters and *defects*: a defect is a longest beginning of a well-formed character that is not
continued, or a byte that begins none. Bytes are text when they decode without a defect; to be
shown, each defect becomes the replacement character.
-/

namespace LineShell

/-- A sequence of bytes. -/
abbrev Bytes := List UInt8

end LineShell

namespace LineShell.Text

/-- The UTF-8 form of a list of characters. -/
def encodeChars (text : List Char) : Bytes :=
  text.flatMap String.utf8EncodeChar

/-- The UTF-8 form of a text. -/
def encode (text : String) : Bytes :=
  encodeChars text.toList

/-- Encodes lines of text, with a line feed after each. -/
def encodeLines (lines : List String) : Bytes :=
  lines.flatMap fun line => encode (line ++ "\n")

/-- What bytes decode to: characters, and what is none. -/
inductive Decoded
  /-- A well-formed character. -/
  | char (c : Char)
  /-- Bytes that are not a character, at least one. -/
  | defect (bytes : Bytes)
  deriving DecidableEq, Repr

/-- A character that has been begun. -/
structure Unfinished where
  /-- Its bytes so far. -/
  read : Bytes
  /-- The bits of its code point so far. -/
  bits : Nat
  /-- How many bytes follow the next one. -/
  later : Nat
  /-- The least value of the next byte. -/
  low : UInt8
  /-- The greatest value of the next byte. -/
  high : UInt8

/-- What a byte is where no character is under way. -/
inductive Lead
  /-- The byte is a whole character. -/
  | whole (c : Char)
  /-- The byte begins a longer character. -/
  | opens (rest : Unfinished)
  /-- No character begins with the byte. -/
  | defect

/-- How a byte begins a character. The bounds on the second byte exclude overlong forms, surrogates
and values beyond the last code point. -/
def Lead.ofByte (b : UInt8) : Lead :=
  let value := b.toNat
  if value < 0x80 then .whole (Char.ofNat value)
  else if value < 0xC2 then .defect
  else if value < 0xE0 then .opens ⟨[b], value - 0xC0, 0, 0x80, 0xBF⟩
  else if value < 0xF0 then
    .opens ⟨[b], value - 0xE0, 1, if value = 0xE0 then 0xA0 else 0x80,
      if value = 0xED then 0x9F else 0xBF⟩
  else if value < 0xF5 then
    .opens ⟨[b], value - 0xF0, 2, if value = 0xF0 then 0x90 else 0x80,
      if value = 0xF4 then 0x8F else 0xBF⟩
  else .defect

/-- What the rest of the bytes decodes to after the beginning of a character, if one is under way. A
byte that does not continue it ends it as a defect and is read afresh. -/
def decodeFrom : Option Unfinished → Bytes → List Decoded
  | none, [] => []
  | some begun, [] => [.defect begun.read]
  | none, b :: rest =>
    match Lead.ofByte b with
    | .whole c => .char c :: decodeFrom none rest
    | .opens begun => decodeFrom (some begun) rest
    | .defect => .defect [b] :: decodeFrom none rest
  | some begun, b :: rest =>
    if begun.low ≤ b ∧ b ≤ begun.high then
      let bits := begun.bits * 64 + (b.toNat - 0x80)
      match begun.later with
      | 0 => .char (Char.ofNat bits) :: decodeFrom none rest
      | later + 1 => decodeFrom (some ⟨begun.read ++ [b], bits, later, 0x80, 0xBF⟩) rest
    else
      .defect begun.read :: match Lead.ofByte b with
        | .whole c => .char c :: decodeFrom none rest
        | .opens again => decodeFrom (some again) rest
        | .defect => .defect [b] :: decodeFrom none rest

/-- The characters and defects of bytes, in order. -/
def decode (bytes : Bytes) : List Decoded :=
  decodeFrom none bytes

/-- The character, if it is one. -/
def Decoded.char? : Decoded → Option Char
  | .char c => some c
  | .defect _ => none

/-- The text that bytes are the UTF-8 form of, if they are one. -/
def decode? (bytes : Bytes) : Option String :=
  ((decode bytes).mapM Decoded.char?).map String.ofList

/-- The text of bytes with the replacement character for each defect. -/
def decodeShown (bytes : Bytes) : String :=
  String.ofList ((decode bytes).map fun unit => unit.char?.getD '\uFFFD')

end LineShell.Text
