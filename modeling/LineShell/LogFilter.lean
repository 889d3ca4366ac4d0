import LineShell.Log
import LineShell.Pattern.Basic
import LineShell.Text.Words

/-!
# Log filters

Which lines of the log are wanted. A filter is a list of rules; a rule has a level and may be bound
to the topics whose names begin in a given way. The rule with the longest such beginning decides
about a line; a rule for all topics has the shortest.

A filter is written as rules with commas between them. A rule is a level, the beginning of a name,
or both with an equals sign between them; without a level everything is wanted. After a slash may
stand a pattern that has to occur in a line.
-/

namespace LineShell

/-- A rule of a log filter. -/
structure LogRule where
  /-- The beginning of the names of topics that the rule is bound to, if it is bound. -/
  topic : Option String
  /-- The lowest level that is wanted; without it nothing is. -/
  level : Option Level
  deriving DecidableEq, Repr

namespace LogRule

/-- The length, in bytes, of the beginning that a rule is bound to. -/
def specificity (rule : LogRule) : Nat :=
  rule.topic.elim 0 String.utf8ByteSize

/-- Whether a rule speaks about a topic. -/
def covers (rule : LogRule) (topic : Topic) : Bool :=
  rule.topic.all fun beginning => beginning.toList.isPrefixOf topic.name.toList

/-- Whether a rule wants lines of a level. -/
def wants (rule : LogRule) (level : Level) : Bool :=
  rule.level.any fun lowest => level.rank ≤ lowest.rank

end LogRule

/-- Which lines of the log are wanted. -/
structure LogFilter where
  /-- The rules, each bound in another way. -/
  rules : List LogRule
  /-- The pattern that has to occur in lines. -/
  pattern : Option Pattern
  deriving DecidableEq, Repr

namespace LogFilter

/-- The filter that wants the lines of a level and those that matter more. -/
def ofLevel (level : Level) : LogFilter :=
  ⟨[⟨none, some level⟩], none⟩

/-- The filter with one more rule. It takes the place of a rule bound in the same way. -/
def add (filter : LogFilter) (rule : LogRule) : LogFilter :=
  if filter.rules.any fun old => old.topic = rule.topic then
    { filter with rules :=
        filter.rules.map fun old => if old.topic = rule.topic then rule else old }
  else { filter with rules := filter.rules ++ [rule] }

/-- The rule that decides about a topic: of those that cover it the most specific one, and the
latest of several. -/
def ruleFor? (filter : LogFilter) (topic : Topic) : Option LogRule :=
  (filter.rules.filter fun rule => rule.covers topic).foldl (fun best rule =>
    match best with
    | some best => if best.specificity ≤ rule.specificity then some rule else some best
    | none => some rule) none

/-- Whether a line is wanted. -/
def wants (filter : LogFilter) (line : LogLine) : Bool :=
  (filter.ruleFor? line.topic).any (fun rule => rule.wants line.level) &&
    filter.pattern.all fun pattern => pattern.occursIn line.text

/-! ### The written form -/

/-- The level that a word names, in any case of its letters; `off` names the lack of one. -/
def readLevel? (word : List Char) : Option (Option Level) :=
  let upper := String.ofList (word.map Char.toUpper)
  if upper = "OFF" then some none
  else (Level.all.find? fun level => level.name = upper).map some

/-- The rule that is written between two commas, or the part of it that makes no sense. -/
def readRule (written : List Char) : Except String LogRule :=
  match written.splitOn '=' with
  | [only] =>
    match readLevel? only with
    | some level => .ok ⟨none, level⟩
    | none => .ok ⟨some (String.ofList only), some .trace⟩
  | [topic, value] =>
    let level := Text.trim value
    if level = [] then .ok ⟨some (String.ofList topic), some .trace⟩
    else
      match readLevel? level with
      | some level => .ok ⟨some (String.ofList topic), level⟩
      | none => .error (String.ofList level)
  | _ => .error (String.ofList written)

/-- Adds written rules to a filter. The parts that make no sense are left out and given back. -/
def addRules (filter : LogFilter) : List (List Char) → LogFilter × List String
  | [] => (filter, [])
  | written :: rest =>
    let written := Text.trim written
    if written = [] then filter.addRules rest
    else
      match readRule written with
      | .ok rule => (filter.add rule).addRules rest
      | .error part =>
        let (final, parts) := filter.addRules rest
        (final, part :: parts)

/-- Adds a written pattern to a filter, or tells why it is none. -/
def addPattern (filter : LogFilter) (written : List Char) : LogFilter × List String :=
  match Pattern.ofText (String.ofList written) with
  | .ok pattern => ({ filter with pattern := some pattern }, [])
  | .error error => (filter, [s!"invalid regex filter - {error.message}"])

/-- Changes a filter as the written form says, and words the complaints about parts of it that make
no sense. -/
def adjust (filter : LogFilter) (written : String) : LogFilter × List String :=
  let invalid (part : String) : String := s!"invalid logging spec '{part}'"
  let (final, complaints) := match written.toList.splitOn '/' with
    | [rules] =>
      let (final, parts) := filter.addRules (rules.splitOn ',')
      (final, parts.map invalid)
    | [rules, pattern] =>
      let (ruled, parts) := filter.addRules (rules.splitOn ',')
      let (final, complaints) := ruled.addPattern pattern
      (final, parts.map invalid ++ complaints)
    | _ => (filter, [s!"{invalid written} (too many '/'s)"])
  (final, complaints.map fun complaint => s!"warning: {complaint}, ignoring it")

end LogFilter

end LineShell
