import LineShell.Pattern.CharSet
import LineShell.Pattern.Defect

/-!
# What patterns mean

An expression says which stretches of a text match a pattern. It is made from a tree under the
settings in force where each part of it stands. Classes that would need properties of the characters
of all scripts are not known, nor is the case of letters beyond ASCII, so parts that need them are
refused.
-/

namespace LineShell.Pattern

/-- What is asked about a place between characters. -/
inductive Look
  /-- It is the beginning of the text. -/
  | textStart
  /-- It is the end of the text. -/
  | textEnd
  /-- It is the beginning of a line; a carriage return may belong to the end of one. -/
  | lineStart (returns : Bool)
  /-- It is the end of a line, to which a carriage return may belong. -/
  | lineEnd (returns : Bool)
  /-- It has to do with words; letters of all scripts may be meant. -/
  | word (anchor : Anchor) (unicode : Bool)
  deriving DecidableEq, Repr

/-- Which stretches of a text match. -/
inductive Expression
  /-- The empty ones. -/
  | empty
  /-- Those of one character out of a set. -/
  | one (set : CharSet)
  /-- The empty ones at a place that something is true of. -/
  | look (look : Look)
  /-- Those that match another expression, which is captured. -/
  | captured (body : Expression)
  /-- Those in which one that matches is followed by another. -/
  | sequence (first second : Expression)
  /-- Those that match either. -/
  | choice (first second : Expression)
  /-- Those of so many that match, the most of them if there is a limit. -/
  | repetition (least : Nat) (most : Option Nat) (body : Expression)
  deriving DecidableEq, Repr

/-- The settings in force at a part of a pattern. -/
structure Modes where
  /-- Whether case does not matter. -/
  caseless : Bool := false
  /-- Whether lines have a beginning and an end of their own. -/
  lines : Bool := false
  /-- Whether the dot stands for the end of a line as well. -/
  dotAll : Bool := false
  /-- Whether a carriage return belongs to the end of a line. -/
  returns : Bool := false
  /-- Whether characters of all scripts are meant, and not bytes. -/
  unicode : Bool := true

namespace Modes

/-- The settings after a switch has been set. -/
def set (modes : Modes) : Switch × Bool → Modes
  | (.caseless, value) => { modes with caseless := value }
  | (.lines, value) => { modes with lines := value }
  | (.dotAll, value) => { modes with dotAll := value }
  | (.returns, value) => { modes with returns := value }
  | (.unicode, value) => { modes with unicode := value }
  | (.lazy, _) | (.free, _) => modes

/-- The settings after switches have been set. -/
def apply (modes : Modes) (settings : Settings) : Modes :=
  settings.foldl set modes

end Modes

/-! ### Classes -/

/-- The name of a property without what does not tell names apart: case, spaces, hyphens,
underscores, characters beyond ASCII and a leading `is`. -/
def canonicalName (name : List Char) : List Char :=
  let body := match name with
    | a :: b :: rest => if a.toLower = 'i' ∧ b.toLower = 's' then rest else name
    | short => short
  let kept := body.filter fun c => c.toNat < 0x80 && c ≠ ' ' && c ≠ '_' && c ≠ '-'
  kept.map Char.toLower

/-- Names of kinds of characters that are not names of properties as well. -/
def kindNames : List String :=
  ["cf", "sc", "lc"]

/-- No class of characters with a property is known. What is wrong depends on its name. -/
def refuseProperty {α : Type} (modes : Modes) (span : Span) (name : PropertyName) :
    Except Defect α :=
  if !modes.unicode then refuse .unicodeForbidden span
  else if name.any fun name => kindNames.contains (String.ofList (canonicalName name)) then
    refuse .propertyValueUnknown span
  else refuse .propertyUnknown span

/-- The characters of a class with a short name. It is known only where bytes are meant. -/
def Shorthand.toSet (modes : Modes) (span : Span) (kind : Shorthand) (negated : Bool) :
    Except Defect CharSet :=
  if modes.unicode then refuse .shorthandUnknown span
  else if negated then refuse .invalidText span
  else .ok (.ranges kind.codes)

/-- A character that is meant for a byte where bytes are meant. -/
def Literal.check (modes : Modes) (literal : Literal) : Except Defect Char :=
  if modes.unicode ∨ literal.char.toNat < 0x80 then .ok literal.char
  else if literal.isByte then refuse .invalidText literal.span
  else refuse .unicodeForbidden literal.span

/-- Whether a part of a class is a character or a range. -/
def ClassTree.isPlain : ClassTree → Bool
  | .literal _ | .range _ _ _ => true
  | _ => false

/-- Whether a class has a character or a range among its own items. -/
def ClassTree.hasPlain : ClassTree → Bool
  | .union _ items => items.any ClassTree.isPlain
  | item => item.isPlain

/-- A set regardless of case, if case does not matter. -/
def foldCase (modes : Modes) (span : Span) (hasPlain : Bool) (set : CharSet) :
    Except Defect CharSet :=
  if !modes.caseless then .ok set
  else if !modes.unicode then .ok (.caseless set)
  else if hasPlain then refuse .caseUnknown span
  else .ok set

/-- A set or all characters but those of it. Where bytes are meant the latter are no text. -/
def negate (modes : Modes) (span : Span) (negated : Bool) (set : CharSet) :
    Except Defect CharSet :=
  if !negated then .ok set
  else if modes.unicode then .ok (.complement set)
  else refuse .invalidText span

mutual

/-- The characters of a class. -/
def ClassTree.toSet (modes : Modes) : ClassTree → Except Defect CharSet
  | .empty _ => .ok .none
  | .literal char => do
    let c ← char.check modes
    pure (.single c)
  | .range _ low high => do
    let first ← low.check modes
    let last ← high.check modes
    pure (.ranges [(first.toNat, last.toNat)])
  | .named span kind negated => do
    let set ← foldCase modes span true (.ranges kind.codes)
    negate modes span negated set
  | .shorthand span kind negated => kind.toSet modes span negated
  | .property span name => refuseProperty modes span name
  | .bracketed span negated body => do
    let set ← body.toSet modes
    let folded ← foldCase modes span body.hasPlain set
    negate modes span negated folded
  | .union _ items => ClassTree.toSets modes items
  | .operation _ operator left right => do
    let leftSet ← left.toSet modes
    let rightSet ← right.toSet modes
    let rightFolded ← foldCase modes right.span right.hasPlain rightSet
    let leftFolded ← foldCase modes left.span left.hasPlain leftSet
    pure (.operation operator leftFolded rightFolded)

/-- The characters of the items of a class. -/
def ClassTree.toSets (modes : Modes) : List ClassTree → Except Defect CharSet
  | [] => .ok .none
  | item :: items => do
    let set ← item.toSet modes
    let rest ← ClassTree.toSets modes items
    pure (.union set rest)

end

/-! ### Atoms -/

/-- A character. Case can be ignored only where bytes are meant. -/
def Literal.toExpression (modes : Modes) (literal : Literal) : Except Defect Expression :=
  let c := literal.char
  if modes.unicode then
    if modes.caseless then refuse .caseUnknown literal.span else .ok (.one (.single c))
  else if literal.isByte ∧ 0x80 ≤ c.toNat then refuse .invalidText literal.span
  else .ok (.one (if modes.caseless then .caseless (.single c) else .single c))

/-- Any character, which may exclude the end of a line. -/
def dotSet (modes : Modes) : CharSet :=
  if modes.dotAll then .complement .none
  else if modes.returns then .complement (.ranges [(0x0A, 0x0A), (0x0D, 0x0D)])
  else .complement (.single '\n')

/-- A question about a place. -/
def Anchor.toLook (modes : Modes) : Anchor → Look
  | lineStart => if modes.lines then .lineStart modes.returns else .textStart
  | lineEnd => if modes.lines then .lineEnd modes.returns else .textEnd
  | textStart => .textStart
  | textEnd => .textEnd
  | anchor => .word anchor modes.unicode

/-- What an atom matches. -/
def Atom.toExpression (modes : Modes) : Atom → Except Defect Expression
  | .literal char => char.toExpression modes
  | .dot span =>
    if modes.unicode then .ok (.one (dotSet modes)) else refuse .invalidText span
  | .anchor _ question => .ok (.look (question.toLook modes))
  | .shorthand span kind negated => (kind.toSet modes span negated).map .one
  | .property span name => refuseProperty modes span name

/-! ### Trees -/

namespace Expression

/-- An expression so many times. Nothing is left of one that is to match no time at all. -/
def times (least : Nat) (most : Option Nat) (body : Expression) : Expression :=
  if most = some 0 then .empty else .repetition least most body

end Expression

mutual

/-- What a tree matches, and the settings in force behind it. -/
def Tree.toExpression (modes : Modes) : Tree → Except Defect (Expression × Modes)
  | .empty _ => .ok (.empty, modes)
  | .settings _ changes => .ok (.empty, modes.apply changes)
  | .atom part => do
    let expression ← part.toExpression modes
    pure (expression, modes)
  | .bracketed span negated body => do
    let set ← (ClassTree.bracketed span negated body).toSet modes
    pure (.one set, modes)
  | .repetition _ least most body => do
    let (expression, behind) ← body.toExpression modes
    pure (expression.times least most, behind)
  | .group _ changes isCaptured body => do
    let (expression, _) ← body.toExpression (modes.apply changes)
    pure (if isCaptured then .captured expression else expression, modes)
  | .alternation _ branches => Tree.toChoice modes branches
  | .sequence _ parts => Tree.toSequence modes parts

/-- What at least one of several trees matches, and the settings in force behind them. -/
def Tree.toChoice (modes : Modes) : List Tree → Except Defect (Expression × Modes)
  | [] => .ok (.one .none, modes)
  | [tree] => tree.toExpression modes
  | tree :: trees => do
    let (expression, behind) ← tree.toExpression modes
    let (others, after) ← Tree.toChoice behind trees
    pure (.choice expression others, after)

/-- What several trees match one after the other, and the settings in force behind them. -/
def Tree.toSequence (modes : Modes) : List Tree → Except Defect (Expression × Modes)
  | [] => .ok (.empty, modes)
  | [tree] => tree.toExpression modes
  | tree :: trees => do
    let (expression, behind) ← tree.toExpression modes
    let (others, after) ← Tree.toSequence behind trees
    pure (.sequence expression others, after)

end

end LineShell.Pattern
