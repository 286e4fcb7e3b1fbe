import WindowPlacement.TitlePattern.ClassReading

/-!
# Reading title patterns

A pattern is read in one pass.  The groups that are still open are kept in a list, each with
what stood in front of it; so is the current sequence, with the alternatives before it.
Nothing is said about a text that is no pattern except that it is none.
-/

namespace WindowPlacement.TitlePattern

open Text (Reader isBlank)
open Text.Reader (require fail next skipChar)

/-- A choice that is being read: the finished alternatives and the parts of the current
one, both with the last one first. -/
structure OpenChoice where
  branches : List (List Node)
  parts : List Node

namespace OpenChoice

/-- Nothing has been read. -/
def empty : OpenChoice :=
  ⟨[], []⟩

/-- Add a part to the current alternative. -/
def push (o : OpenChoice) (part : Node) : OpenChoice :=
  { o with parts := part :: o.parts }

def nextBranch (o : OpenChoice) : OpenChoice :=
  ⟨o.parts.reverse :: o.branches, []⟩

def finish (o : OpenChoice) : Written :=
  (o.nextBranch.branches).reverse

/-- Repeat the last part.  There has to be one, and flags cannot be repeated. -/
def repeatLast (o : OpenChoice) (least : Nat) (most : Option Nat) (preferShort : Bool) :
    Option OpenChoice :=
  match o.parts with
  | [] | .flags _ :: _ => none
  | part :: before => some { o with parts := .repeated part least most preferShort :: before }

end OpenChoice

/-- A group that is being read: what stood in front of it, whether the pattern was verbose
there, and what it has at its head. -/
structure OpenGroup where
  before : OpenChoice
  verbose : Bool
  kind : GroupKind

/-- The progress in reading a pattern. -/
structure Progress where
  verbose : Bool
  current : OpenChoice
  groups : List OpenGroup
  names : List (List Char)

namespace Progress

/-- Nothing has been read. -/
def start : Progress :=
  ⟨false, .empty, [], []⟩

def push (p : Progress) (part : Node) : Progress :=
  { p with current := p.current.push part }

def openGroup (p : Progress) (kind : GroupKind) : Progress :=
  { p with
    verbose := (kind.changes.lookup .verbose).getD p.verbose
    current := .empty
    groups := ⟨p.current, p.verbose, kind⟩ :: p.groups }

/-- End the innermost group.  There has to be one. -/
def closeGroup (p : Progress) : Option Progress :=
  match p.groups with
  | [] => none
  | group :: groups =>
    some
      { p with
        verbose := group.verbose
        current := group.before.push (.group group.kind p.current.finish)
        groups := groups }

def repeatLast (p : Progress) (least : Nat) (most : Option Nat) (preferShort : Bool) :
    Option Progress :=
  (p.current.repeatLast least most preferShort).map fun current => { p with current := current }

/-- Take in the head of a group, or flags that stand alone.  A name is given only once. -/
def addHead (p : Progress) : GroupHead → Option Progress
  | .plain => some (p.openGroup .capturing)
  | .named name =>
    if p.names.contains name then
      none
    else
      some { p.openGroup .capturing with names := name :: p.names }
  | .withFlags changes => some (p.openGroup (.withFlags changes))
  | .flagsOnly changes =>
    some { p.push (.flags changes) with verbose := (changes.lookup .verbose).getD p.verbose }

/-- The pattern, if no group is open. -/
def finish (p : Progress) : Option Written :=
  if p.groups.isEmpty then some p.current.finish else none

end Progress

/-- How often a repetition sign asks for what stands before it. -/
def signCounts? : Char → Option (Nat × Option Nat)
  | '?' => some (0, some 1)
  | '*' => some (0, none)
  | '+' => some (1, none)
  | _ => none

/-- Read one part or sign of a pattern from its first character. -/
def patternStep (p : Progress) (c : Char) : Reader Progress := do
  if p.verbose && isBlank c then
    pure p
  else if p.verbose && c == '#' then
    skipComment
    pure p
  else
    match c with
    | '(' =>
      let head ← groupHead p.verbose
      Reader.ofOption (p.addHead head)
    | ')' => Reader.ofOption p.closeGroup
    | '|' => pure { p with current := p.current.nextBranch }
    | '[' =>
      let (negated, inner) ← bracketedClass p.verbose
      pure (p.push (.bracketed negated inner))
    | '\x7b' =>
      let (least, most, preferShort) ← counts p.verbose
      Reader.ofOption (p.repeatLast least most preferShort)
    | '\\' =>
      let part ← escape p.verbose
      pure (p.push part)
    | '.' => pure (p.push .dot)
    | '^' => pure (p.push (.edge .lineStart))
    | '$' => pure (p.push (.edge .lineEnd))
    | _ =>
      match signCounts? c with
      | some (least, most) =>
        let preferShort ← skipChar '?'
        Reader.ofOption (p.repeatLast least most preferShort)
      | none => pure (p.push (.char c))

/-- Read a pattern up to the end of the text. -/
def pattern : Reader Written :=
  Reader.loop (fun p c => Sum.inl <$> patternStep p c) Progress.finish .start

/-- The pattern that a text spells, if it does and is not nested too deeply. -/
def Written.ofString? (text : String) : Option Written :=
  match Reader.readAll pattern text.toList with
  | some written => if written.depth ≤ nestingLimit then some written else none
  | none => none

end WindowPlacement.TitlePattern
