import LineShell.Pattern.Matching
import LineShell.Pattern.Reading

/-!
# Patterns

A pattern is a text in the language of regular expressions. It is read, given a meaning and then
looked for in other texts. Patterns that would take too much room are refused, and so are those that
ask for the words of all scripts.
-/

namespace LineShell

/-- A pattern that can be looked for. -/
structure Pattern where
  /-- What it matches. -/
  expression : Pattern.Expression
  deriving DecidableEq, Repr

namespace Pattern

/-- Why a text cannot be used as a pattern. -/
inductive PatternError
  /-- It is no pattern. -/
  | defect (source : List Char) (defect : Defect)
  /-- It would take too much room. -/
  | tooLarge
  /-- It asks for the words of all scripts. -/
  | allScripts

/-- The room that a pattern may take, in bytes. -/
def roomLimit : Nat := 10 * 1024 * 1024

/-- How an error is reported. -/
def PatternError.message : PatternError → String
  | .defect source wrong => wrong.report source
  | .tooLarge => s!"Compiled regex exceeds size limit of {roomLimit} bytes."
  | .allScripts => "error building NFA"

namespace Expression

/-- About how much room an expression takes, in bytes: a state for each step of it, and in a state
something for each way that goes on from there. -/
def room : Expression → Nat
  | empty => 32
  | one (.ranges [(low, high)]) =>
    if low = high then 32 * (Char.ofNat low).utf8Size else if high < 0x80 then 72 else 400
  | one set => if set.isAscii then 64 + 8 * set.rangeCount else 360 + 40 * set.rangeCount
  | look _ => 32
  | captured body => 64 + body.room
  | sequence first second => first.room + second.room
  | choice first second => 72 + first.room + second.room
  | repetition least (some most) body => most * body.room + 40 * (most - least) + 32
  | repetition least none body => max 1 least * body.room + 40

/-- Whether an expression asks for the words of all scripts. -/
def asksAllScripts : Expression → Bool
  | empty | one _ => false
  | look (.word _ unicode) => unicode
  | look _ => false
  | captured body | repetition _ _ body => body.asksAllScripts
  | sequence first second | choice first second => first.asksAllScripts || second.asksAllScripts

end Expression

/-- The pattern that a text is, or why it is none. -/
def ofText (source : String) : Except PatternError Pattern :=
  let characters := source.toList
  match Tree.read characters >>= fun tree => tree.toExpression {} with
  | .error defect => .error (.defect characters defect)
  | .ok (expression, _) =>
    if roomLimit < expression.room then .error .tooLarge
    else if expression.asksAllScripts then .error .allScripts
    else .ok ⟨expression⟩

/-- Whether a pattern occurs in a text. -/
def occursIn (pattern : Pattern) (text : String) : Bool :=
  pattern.expression.occursIn text.toList

end Pattern

end LineShell
