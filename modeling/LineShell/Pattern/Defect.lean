import LineShell.Pattern.Source
import LineShell.Text.Lines

/-!
# Defects of patterns

Why a text is no pattern, and where. A report shows the pattern and points at the place; if the
pattern has several lines they are numbered, and a stretch over more than one of them is told in
words.
-/

namespace LineShell.Pattern

/-- Why a text is no pattern. -/
inductive Complaint
  /-- A class holds an escape that stands for no characters. -/
  | classEscape
  /-- A range in a class ends before it begins. -/
  | classRange
  /-- A range in a class begins or ends with more than a character. -/
  | classBoundary
  /-- A class is not closed. -/
  | classUnclosed
  /-- A number has too large a value. -/
  | number
  /-- Nothing is between the braces of a hexadecimal number. -/
  | hexEmpty
  /-- A hexadecimal number is no code point. -/
  | hexValue
  /-- A character is no hexadecimal digit. -/
  | hexDigit
  /-- The pattern ends within an escape. -/
  | escapeUnfinished
  /-- There is no such escape. -/
  | escapeUnknown
  /-- A minus is followed by no setting. -/
  | settingDangling
  /-- A setting is there twice. -/
  | settingTwice
  /-- A minus is there twice. -/
  | minusTwice
  /-- The pattern ends among settings. -/
  | settingUnfinished
  /-- There is no such setting. -/
  | settingUnknown
  /-- Two groups have the same name. -/
  | nameTwice
  /-- A name is empty. -/
  | nameEmpty
  /-- A character cannot be in a name. -/
  | nameChar
  /-- A name is not closed. -/
  | nameUnclosed
  /-- A group is not closed. -/
  | groupUnclosed
  /-- A group is closed that is not open. -/
  | groupUnopened
  /-- Groups and classes lie too deep within each other. -/
  | tooDeep (limit : Nat)
  /-- A repetition has a least number above its greatest. -/
  | countOrder
  /-- A repetition lacks a number. -/
  | countEmpty
  /-- The braces of a repetition are not closed. -/
  | countUnclosed
  /-- There is nothing to repeat. -/
  | repetitionMissing
  /-- The braces of a boundary of words hold something else. -/
  | boundaryUnclosed
  /-- There is no such boundary of words. -/
  | boundaryUnknown
  /-- The pattern ends after the opening brace of a boundary of words. -/
  | boundaryUnfinished
  /-- A class of characters is named by a backslash. -/
  | propertyInvalid
  /-- The pattern refers back to a group. -/
  | backreference
  /-- The pattern looks ahead or behind. -/
  | lookAround
  /-- A character beyond ASCII stands where bytes are meant. -/
  | unicodeForbidden
  /-- The pattern would match something that is no text. -/
  | invalidText
  /-- There is no such property of characters. -/
  | propertyUnknown
  /-- There is no such value of a property of characters. -/
  | propertyValueUnknown
  /-- The short name of a class stands where it would have to know all scripts. -/
  | shorthandUnknown
  /-- Case cannot be ignored where that would have to know all scripts. -/
  | caseUnknown
  deriving DecidableEq, Repr

/-- How a complaint is worded. -/
def Complaint.message : Complaint → String
  | classEscape => "invalid escape sequence found in character class"
  | classRange => "invalid character class range, the start must be <= the end"
  | classBoundary => "invalid range boundary, must be a literal"
  | classUnclosed => "unclosed character class"
  | number => "decimal literal invalid"
  | hexEmpty => "hexadecimal literal empty"
  | hexValue => "hexadecimal literal is not a Unicode scalar value"
  | hexDigit => "invalid hexadecimal digit"
  | escapeUnfinished => "incomplete escape sequence, reached end of pattern prematurely"
  | escapeUnknown => "unrecognized escape sequence"
  | settingDangling => "dangling flag negation operator"
  | settingTwice => "duplicate flag"
  | minusTwice => "flag negation operator repeated"
  | settingUnfinished => "expected flag but got end of regex"
  | settingUnknown => "unrecognized flag"
  | nameTwice => "duplicate capture group name"
  | nameEmpty => "empty capture group name"
  | nameChar => "invalid capture group character"
  | nameUnclosed => "unclosed capture group name"
  | groupUnclosed => "unclosed group"
  | groupUnopened => "unopened group"
  | tooDeep limit => s!"exceed the maximum number of nested parentheses/brackets ({limit})"
  | countOrder => "invalid repetition count range, the start must be <= the end"
  | countEmpty => "repetition quantifier expects a valid decimal"
  | countUnclosed => "unclosed counted repetition"
  | repetitionMissing => "repetition operator missing expression"
  | boundaryUnclosed =>
    "special word boundary assertion is either unclosed or contains an invalid character"
  | boundaryUnknown =>
    "unrecognized special word boundary assertion, valid choices are: start, end, start-half or " ++
      "end-half"
  | boundaryUnfinished =>
    "found either the beginning of a special word boundary or a bounded repetition on a \\b with " ++
      "an opening brace, but no closing brace"
  | propertyInvalid => "invalid Unicode character class"
  | backreference => "backreferences are not supported"
  | lookAround => "look-around, including look-ahead and look-behind, is not supported"
  | unicodeForbidden => "Unicode not allowed here"
  | invalidText => "pattern can match invalid UTF-8"
  | propertyUnknown => "Unicode property not found"
  | propertyValueUnknown => "Unicode property value not found"
  | shorthandUnknown =>
    "Unicode-aware Perl class not found (make sure the unicode-perl feature is enabled)"
  | caseUnknown =>
    "Unicode-aware case insensitivity matching is not available (make sure the unicode-case " ++
      "feature is enabled)"

/-- What is wrong with a pattern. -/
structure Defect where
  /-- Why it is no pattern. -/
  complaint : Complaint
  /-- Where. -/
  span : Span
  /-- Another stretch of it that has to do with the defect. -/
  related : Option Span
  deriving DecidableEq, Repr

/-- Refuses a pattern. -/
def refuse {α : Type} (complaint : Complaint) (span : Span) : Except Defect α :=
  .error ⟨complaint, span, none⟩

/-! ### Reports -/

namespace Defect

/-- The stretches that a report points at, in order. -/
def spans (defect : Defect) : List Span :=
  match defect.related with
  | none => [defect.span]
  | some related =>
    if related.first.isUpTo defect.span.first then [related, defect.span]
    else [defect.span, related]

/-- Carets under stretches of a line, given how many columns are filled already. -/
def carets : Nat → List Span → List Char
  | _, [] => []
  | filled, span :: later =>
    let gap := span.first.column - 1 - filled
    let width := max 1 (span.last.column - span.first.column)
    List.replicate gap ' ' ++ List.replicate width '^' ++ carets (filled + gap + width) later

/-- A line of the pattern, and below it what points at stretches of it. -/
def annotated (defect : Defect) (margin : Nat) (number : Nat) (line : List Char) : List String :=
  let label := (toString number).toList
  let front :=
    if margin = 0 then "    ".toList
    else List.replicate (margin - label.length) ' ' ++ label ++ ": ".toList
  let within := defect.spans.filter fun span => span.first.line = number ∧ span.last.line = number
  let shown := String.ofList (front ++ line)
  if within.isEmpty then [shown]
  else [shown, String.ofList (List.replicate front.length ' ' ++ carets 0 within)]

/-- What is said about a stretch over several lines. -/
def spread (span : Span) : String :=
  s!"on line {span.first.line} (column {span.first.column}) through line {span.last.line} " ++
    s!"(column {span.last.column - 1})"

/-- What is wrong with a pattern, in full. -/
def report (defect : Defect) (source : List Char) : String :=
  let lines := Text.lines '\n' '\r' source
  let count := lines.length + if source.getLast? = some '\n' then 1 else 0
  let margin := if count ≤ 1 then 0 else (toString count).length
  let body := (lines.zipIdx 1).flatMap fun (line, number) => defect.annotated margin number line
  let wide := (defect.spans.filter fun span => span.first.line ≠ span.last.line).map spread
  let rule := String.ofList (List.replicate 79 '~')
  let framed := if '\n' ∈ source then [rule] ++ body ++ [rule] ++ wide else body
  "\n".intercalate (["regex parse error:"] ++ framed ++ [s!"error: {defect.complaint.message}"])

end Defect

end LineShell.Pattern
