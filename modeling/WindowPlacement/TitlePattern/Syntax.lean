/-!
# Written title patterns

A title pattern is a regular expression.  This module has the form in which one is written:
characters, classes of characters, edges such as the ends of the title or of a word,
repetitions, groups, and flags that change how the rest of a group is taken.

What a pattern accepts is decided by a title alone.  That a repetition would rather be short,
and that a group captures what it covers, which one without flags at its head does, counts
for the size of the pattern only.
-/

namespace WindowPlacement.TitlePattern

/-- What a flag can change. -/
inductive Flag
  | ignoreCase
  | multiLine
  | dotMatchesLineBreak
  | preferShort
  | unicode
  | carriageReturns
  | verbose
  deriving DecidableEq, Repr

/-- Flags switched on or off, in the order in which they are written. -/
abbrev FlagChanges :=
  List (Flag × Bool)

/-- The classes that a backslash and a letter stand for. -/
inductive ShortClass
  | digit
  | space
  | word
  deriving DecidableEq, Repr

/-- The classes with a name between colons, which hold characters of ASCII only. -/
inductive NamedClass
  | alnum
  | alpha
  | ascii
  | blank
  | cntrl
  | digit
  | graph
  | lower
  | print
  | punct
  | space
  | upper
  | word
  | xdigit
  deriving DecidableEq, Repr

/-- How a class of characters with a Unicode property is asked for: by the name of what
holds of them, or by the value that a property has for them or, if it is to differ, has not. -/
inductive PropertyQuery
  | named (name : List Char)
  | valued (name value : List Char) (differs : Bool)
  deriving DecidableEq, Repr

/-- How two classes are combined. -/
inductive ClassOperator
  | intersection
  | difference
  | symmetricDifference
  deriving DecidableEq, Repr

/-- A character as it is written.  `isByte` marks one written with two hexadecimal digits. -/
structure Literal where
  char : Char
  isByte : Bool
  deriving DecidableEq, Repr

/-- A class of characters, or a part of one. -/
inductive ClassSet
  | literal (l : Literal)
  | range (first last : Literal)
  | short (negated : Bool) (name : ShortClass)
  | named (negated : Bool) (name : NamedClass)
  | property (negated : Bool) (query : PropertyQuery)
  | bracketed (negated : Bool) (inner : ClassSet)
  | union (parts : List ClassSet)
  | combined (operator : ClassOperator) (left right : ClassSet)
  deriving Repr

/-- What a place has to do with words: whether one starts or ends there, or none does, or
whether there is none before it, or none behind it. -/
inductive WordEdge
  | boundary
  | noBoundary
  | start
  | stop
  | startHalf
  | stopHalf
  deriving DecidableEq, Repr

/-- A place between two characters. -/
inductive Edge
  | lineStart
  | lineEnd
  | textStart
  | textEnd
  | word (edge : WordEdge)
  deriving DecidableEq, Repr

/-- What a group has at its head: flags, or nothing but perhaps a name, which makes it
capture. -/
inductive GroupKind
  | capturing
  | withFlags (changes : FlagChanges)
  deriving DecidableEq, Repr

def GroupKind.changes : GroupKind → FlagChanges
  | .capturing => []
  | .withFlags changes => changes

/-- A part of a pattern. -/
inductive Node
  | flags (changes : FlagChanges)
  | literal (l : Literal)
  | dot
  | edge (e : Edge)
  | short (negated : Bool) (name : ShortClass)
  | property (negated : Bool) (query : PropertyQuery)
  | bracketed (negated : Bool) (inner : ClassSet)
  | repeated (inner : Node) (least : Nat) (most : Option Nat) (preferShort : Bool)
  | group (kind : GroupKind) (branches : List (List Node))
  deriving Repr

/-- A whole pattern: its alternatives, each of them a sequence of parts. -/
abbrev Written :=
  List (List Node)

/-! ## Nesting

How deep the parts of a pattern are nested.  A sequence, a choice or a union of a single
part is that part. -/

/-- What a sequence, a choice or a union adds to the nesting of its parts. -/
def nestingStep {α : Type} : List α → Nat
  | [] | [_] => 0
  | _ => 1

mutual

def ClassSet.depth : ClassSet → Nat
  | .literal _ | .range _ _ | .short _ _ | .named _ _ | .property _ _ => 0
  | .bracketed _ inner => inner.depth + 1
  | .union parts => ClassSet.depthAll parts + nestingStep parts
  | .combined _ left right => max left.depth right.depth + 1

/-- The greatest nesting of some classes. -/
def ClassSet.depthAll : List ClassSet → Nat
  | [] => 0
  | part :: rest => max part.depth (ClassSet.depthAll rest)

end

mutual

/-- The nesting of a part of a pattern. -/
def Node.depth : Node → Nat
  | .flags _ | .literal _ | .dot | .edge _ | .short _ _ | .property _ _ => 0
  | .bracketed _ inner => inner.depth + 1
  | .repeated inner _ _ _ => inner.depth + 1
  | .group _ branches => Node.depthChoice branches + nestingStep branches + 1

/-- The greatest nesting of some parts. -/
def Node.depthAll : List Node → Nat
  | [] => 0
  | part :: rest => max part.depth (Node.depthAll rest)

/-- The greatest nesting of some sequences. -/
def Node.depthChoice : List (List Node) → Nat
  | [] => 0
  | branch :: rest =>
    max (Node.depthAll branch + nestingStep branch) (Node.depthChoice rest)

end

def Written.depth (w : Written) : Nat :=
  Node.depthChoice w + nestingStep w

/-- The deepest nesting that is allowed. -/
def nestingLimit : Nat :=
  250

end WindowPlacement.TitlePattern
