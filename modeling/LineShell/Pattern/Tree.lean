import LineShell.Pattern.Source

/-!
# Patterns as they are written

The parts of a pattern with the stretches that they were read from. What a part means depends on the
settings in force where it stands, so a tree has no meaning of its own yet.
-/

namespace LineShell.Pattern

/-- A character that stands for itself. -/
structure Literal where
  /-- Where it is written. -/
  span : Span
  /-- The character. -/
  char : Char
  /-- Whether it is written with two hexadecimal digits, as a byte could be. -/
  isByte : Bool

/-- A class with a short name. -/
inductive Shorthand
  | digit
  | space
  | word
  deriving DecidableEq, Repr

/-- What a pattern can ask about a place between characters. -/
inductive Anchor
  /-- The beginning of the text, or of a line. -/
  | lineStart
  /-- The end of the text, or of a line. -/
  | lineEnd
  /-- The beginning of the text. -/
  | textStart
  /-- The end of the text. -/
  | textEnd
  /-- Either end of a word. -/
  | wordEdge
  /-- Neither end of a word. -/
  | noWordEdge
  /-- The beginning of a word. -/
  | wordStart
  /-- The end of a word. -/
  | wordEnd
  /-- A place that no word goes on from before. -/
  | noWordBefore
  /-- A place that no word goes on behind. -/
  | noWordAfter
  deriving DecidableEq, Repr

/-- The class of characters with a property: the name of the property, unless a value is given. -/
abbrev PropertyName := Option (List Char)

/-- A part without parts. -/
inductive Atom
  /-- A character. -/
  | literal (literal : Literal)
  /-- Any character. -/
  | dot (span : Span)
  /-- A question about a place. -/
  | anchor (span : Span) (anchor : Anchor)
  /-- A class with a short name, or all characters but those of it. -/
  | shorthand (span : Span) (kind : Shorthand) (negated : Bool)
  /-- The characters with a property. -/
  | property (span : Span) (name : PropertyName)

/-- Where an atom is written. -/
def Atom.span : Atom → Span
  | .literal char => char.span
  | dot span | anchor span _ | shorthand span _ _ | property span _ => span

/-- A class with a name, which stands between colons. -/
inductive NamedClass
  | alnum
  | alpha
  | ascii
  | blank
  | cntrl
  | digit
  | graph
  | lower
  | print
  | punct
  | space
  | upper
  | word
  | xdigit
  deriving DecidableEq, Repr

namespace NamedClass

/-- All named classes. -/
def all : List NamedClass :=
  [alnum, alpha, ascii, blank, cntrl, digit, graph, lower, print, punct, space, upper, word, xdigit]

/-- The name of a class. -/
def name : NamedClass → String
  | alnum => "alnum"
  | alpha => "alpha"
  | ascii => "ascii"
  | blank => "blank"
  | cntrl => "cntrl"
  | digit => "digit"
  | graph => "graph"
  | lower => "lower"
  | print => "print"
  | punct => "punct"
  | space => "space"
  | upper => "upper"
  | word => "word"
  | xdigit => "xdigit"

/-- The class of a name. -/
def ofName? (name : List Char) : Option NamedClass :=
  all.find? fun named => named.name.toList = name

end NamedClass

/-- How two classes make a third. -/
inductive ClassOperator
  /-- The characters in both. -/
  | intersection
  /-- The characters in the first alone. -/
  | difference
  /-- The characters in exactly one. -/
  | symmetricDifference
  deriving DecidableEq, Repr

/-- What is written between brackets. -/
inductive ClassTree
  /-- Nothing. -/
  | empty (span : Span)
  /-- A character. -/
  | literal (literal : Literal)
  /-- All characters from one to another. -/
  | range (span : Span) (low high : Literal)
  /-- A named class, or all characters but those of it. -/
  | named (span : Span) (named : NamedClass) (negated : Bool)
  /-- A class with a short name, or all characters but those of it. -/
  | shorthand (span : Span) (kind : Shorthand) (negated : Bool)
  /-- The characters with a property. -/
  | property (span : Span) (name : PropertyName)
  /-- A class between brackets of its own, or all characters but those of it. -/
  | bracketed (span : Span) (negated : Bool) (body : ClassTree)
  /-- Several of these. -/
  | union (span : Span) (items : List ClassTree)
  /-- Two classes with an operator between them. -/
  | operation (span : Span) (operator : ClassOperator) (left right : ClassTree)

/-- Where a part of a class is written. -/
def ClassTree.span : ClassTree → Span
  | .literal char => char.span
  | empty span | range span _ _ | named span _ _ | shorthand span _ _ | property span _
  | bracketed span _ _ | union span _ | operation span _ _ _ => span

/-- What the meaning of a pattern can be told by. -/
inductive Switch
  /-- Case does not matter. -/
  | caseless
  /-- Lines have a beginning and an end of their own. -/
  | lines
  /-- The dot stands for the end of a line as well. -/
  | dotAll
  /-- Repetitions are as short as they can be. -/
  | lazy
  /-- Characters of all scripts are meant, and not bytes. -/
  | unicode
  /-- A carriage return belongs to the end of a line. -/
  | returns
  /-- Blanks and comments mean nothing. -/
  | free
  deriving DecidableEq, Repr

/-- The switch that a letter stands for. -/
def Switch.ofLetter? : Char → Option Switch
  | 'i' => some caseless
  | 'm' => some lines
  | 's' => some dotAll
  | 'U' => some lazy
  | 'u' => some unicode
  | 'R' => some returns
  | 'x' => some free
  | _ => none

/-- Switches and what they are set to. -/
abbrev Settings := List (Switch × Bool)

/-- A pattern as it is written. -/
inductive Tree
  /-- Nothing. -/
  | empty (span : Span)
  /-- Settings for what follows. -/
  | settings (span : Span) (settings : Settings)
  /-- A part without parts. -/
  | atom (atom : Atom)
  /-- A class between brackets, or all characters but those of it. -/
  | bracketed (span : Span) (negated : Bool) (body : ClassTree)
  /-- A part so many times, the most times if there is a limit. -/
  | repetition (span : Span) (least : Nat) (most : Option Nat) (body : Tree)
  /-- A group with settings of its own, which may be captured. -/
  | group (span : Span) (settings : Settings) (captured : Bool) (body : Tree)
  /-- One of several. -/
  | alternation (span : Span) (branches : List Tree)
  /-- Several one after the other. -/
  | sequence (span : Span) (parts : List Tree)

/-- Where a part of a pattern is written. -/
def Tree.span : Tree → Span
  | .atom part => part.span
  | empty span | settings span _ | bracketed span _ _ | repetition span _ _ _ | group span _ _ _
  | alternation span _ | sequence span _ => span

end LineShell.Pattern
