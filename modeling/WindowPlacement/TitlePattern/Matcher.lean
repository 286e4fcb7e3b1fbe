import WindowPlacement.TitlePattern.Syntax
import WindowPlacement.Unicode.Property

/-!
# Matching

A matcher says which stretches of a title it covers: given texts, single characters of a
set, the empty stretch at certain places, or what is built from those by sequence, choice
and repetition.  A group covers what it holds.

For a set of places in a title, `reach` has the places at which a stretch that starts in the
set can end.  A title is accepted if any stretch of it is covered.  No repetition has to be
followed further than the title is long: a stretch that takes more rounds has empty ones
among them, and one of those can be left out or doubled.
-/

namespace WindowPlacement.TitlePattern

open Unicode (RangeSet)

/-- Whether a character is a letter, a digit or a low line of ASCII. -/
def isAsciiWordChar (c : Char) : Bool :=
  c.isAlphanum || c == '_'

/-- A place in a title that is decided by the characters before and behind it.  Lines can
end with carriage returns too, and words can be of ASCII or of all of Unicode. -/
inductive Boundary
  | textStart
  | textEnd
  | lineStart (carriageReturns : Bool)
  | lineEnd (carriageReturns : Bool)
  | word (edge : WordEdge) (unicode : Bool)
  deriving DecidableEq, Repr

def isWordChar (unicode : Bool) (c : Char) : Bool :=
  if unicode then Unicode.wordCharacters.contains c else isAsciiWordChar c

/-- Whether a place has to do with words in a given way, from whether there is a word before
it and behind it. -/
def WordEdge.holds (edge : WordEdge) (before behind : Bool) : Bool :=
  match edge with
  | .boundary => before != behind
  | .noBoundary => before == behind
  | .start => !before && behind
  | .stop => before && !behind
  | .startHalf => !before
  | .stopHalf => !behind

/-- Whether a boundary is between two characters, where there are any. -/
def Boundary.holds (b : Boundary) (before behind : Option Char) : Bool :=
  match b with
  | .textStart => before == none
  | .textEnd => behind == none
  | .lineStart false => before == none || before == some '\n'
  | .lineStart true =>
    before == none || before == some '\n' || (before == some '\r' && behind != some '\n')
  | .lineEnd false => behind == none || behind == some '\n'
  | .lineEnd true =>
    behind == none || behind == some '\r' || (behind == some '\n' && before != some '\r')
  | .word edge unicode =>
    edge.holds (before.any (isWordChar unicode)) (behind.any (isWordChar unicode))

/-- A set of stretches of titles.  A set that is about single bytes has characters of ASCII
only, and counts as different from the same set of characters. -/
inductive Matcher
  | empty
  | literal (text : List Char)
  | set (chars : RangeSet) (bytes : Bool)
  | boundary (b : Boundary)
  | repetition (inner : Matcher) (least : Nat) (most : Option Nat) (preferShort : Bool)
  | group (inner : Matcher)
  | sequence (parts : List Matcher)
  | choice (branches : List Matcher)

/-- A set of places in a title: the entry at an index says whether the place in front of the
character of that index belongs to the set. -/
abbrev Places :=
  Array Bool

namespace Places

/-- Whether a place belongs to a set. -/
def has (p : Places) (i : Nat) : Bool :=
  p[i]?.getD false

/-- The places in one of two sets. -/
def union (p q : Places) : Places :=
  Array.ofFn fun (i : Fin (max p.size q.size)) => p.has i || q.has i

/-- The places behind the characters of a title that have a property and come behind places
of a set. -/
def advance (title : Array Char) (accepts : Char → Bool) (starts : Places) : Places :=
  Array.ofFn fun (i : Fin (title.size + 1)) =>
    match i.val with
    | 0 => false
    | j + 1 => starts.has j && title[j]?.any accepts

/-- Apply a map again and again, as often as given unless it comes to rest before. -/
def iterate (next : Places → Places) : Nat → Places → Places
  | 0, p => p
  | rounds + 1, p =>
    let q := next p
    if q == p then p else iterate next rounds q

end Places

namespace Matcher

mutual

/-- The places where stretches end that start at some places of a title. -/
def reach (title : Array Char) : Matcher → Places → Places
  | .empty, starts => starts
  | .literal text, starts => text.foldl (fun starts c => starts.advance title (· == c)) starts
  | .set chars _, starts => starts.advance title chars.contains
  | .boundary b, starts =>
    Array.ofFn fun (i : Fin (title.size + 1)) =>
      starts.has i && b.holds (if i.val = 0 then none else title[i.val - 1]?) title[i.val]?
  | .group inner, starts => inner.reach title starts
  | .sequence parts, starts => reachThrough title parts starts
  | .choice branches, starts => reachAny title branches starts
  | .repetition inner least most _, starts =>
    let bound := title.size + 1
    let more :=
      match most with
      | none => bound
      | some most => min (most - least) bound
    Places.iterate (fun p => p.union (inner.reach title p)) more
      (Places.iterate (inner.reach title) (min least bound) starts)

/-- The places where stretches end that some matchers cover one behind the other. -/
def reachThrough (title : Array Char) : List Matcher → Places → Places
  | [], starts => starts
  | part :: rest, starts => reachThrough title rest (part.reach title starts)

/-- The places where stretches end that one of some matchers covers. -/
def reachAny (title : Array Char) : List Matcher → Places → Places
  | [], _ => #[]
  | branch :: rest, starts => (branch.reach title starts).union (reachAny title rest starts)

end

/-- Whether some stretch of a title is covered. -/
def accepts (m : Matcher) (title : String) : Bool :=
  let chars := title.toList.toArray
  (m.reach chars (Array.replicate (chars.size + 1) true)).any id

end Matcher

end WindowPlacement.TitlePattern
