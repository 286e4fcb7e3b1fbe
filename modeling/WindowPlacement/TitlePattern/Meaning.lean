import WindowPlacement.Text.Blank
import WindowPlacement.TitlePattern.Basic
import WindowPlacement.TitlePattern.Composition
import WindowPlacement.TitlePattern.Reading
import WindowPlacement.TitlePattern.Size
import WindowPlacement.Unicode.CaseFolding
import WindowPlacement.Unicode.PropertyName

/-!
# The meaning of title patterns

What a pattern covers depends on its flags, which can change anywhere in it and stay changed
to the end of the group.  A pattern starts with upper and lower case taken as the same, and
with characters of all of Unicode.

Without the flag for Unicode a pattern is about single bytes, and it must not be possible
that it covers a part of a character: whatever could stand for a byte beyond ASCII has no
meaning then.  Within a class such bytes can occur, as long as the class has none of them in
the end.
-/

namespace WindowPlacement.TitlePattern

open Unicode (RangeSet)

/-- What has been set by flags. -/
structure Mode where
  ignoreCase : Bool
  multiLine : Bool
  dotMatchesLineBreak : Bool
  preferShort : Bool
  unicode : Bool
  carriageReturns : Bool
  deriving DecidableEq, Repr

namespace Mode

def start : Mode where
  ignoreCase := true
  multiLine := false
  dotMatchesLineBreak := false
  preferShort := false
  unicode := true
  carriageReturns := false

/-- The mode after a flag has been switched on or off. -/
def set (m : Mode) (flag : Flag) (value : Bool) : Mode :=
  match flag with
  | .ignoreCase => { m with ignoreCase := value }
  | .multiLine => { m with multiLine := value }
  | .dotMatchesLineBreak => { m with dotMatchesLineBreak := value }
  | .preferShort => { m with preferShort := value }
  | .unicode => { m with unicode := value }
  | .carriageReturns => { m with carriageReturns := value }
  | .verbose => m

/-- The mode after several changes. -/
def change (m : Mode) (changes : FlagChanges) : Mode :=
  changes.foldl (fun m change => m.set change.1 change.2) m

end Mode

/-! ## Sets of characters -/

def asciiSet (p : Char → Bool) : RangeSet :=
  .ofCodes ((List.range 128).filter fun n => p (Char.ofNat n))

/-- The letter of ASCII that differs from a letter in case; any other character itself. -/
def otherCase (c : Char) : Char :=
  if c.isUpper then c.toLower else c.toUpper

namespace Mode

/-- A set of characters, with those that differ in case where case does not count. -/
def fold (m : Mode) (set : RangeSet) : RangeSet :=
  if m.ignoreCase then
    if m.unicode then
      set.ignoringCase
    else
      set ∪ asciiSet fun c => set.contains (otherCase c)
  else
    set

/-- A set or, if it is asked for, its complement.  It must not have bytes beyond ASCII. -/
def negate (m : Mode) (negated : Bool) (set : RangeSet) : Option RangeSet :=
  if m.unicode then
    some (if negated then set.complement else set)
  else
    let bytes := if negated then RangeSet.ofRange 0 255 \ set else set
    if bytes.isAscii then some bytes else none

end Mode

def isAsciiSpace (c : Char) : Bool :=
  c == ' ' || (9 ≤ c.toNat && c.toNat ≤ 13)

def NamedClass.contains (name : NamedClass) (c : Char) : Bool :=
  match name with
  | .alnum => c.isAlphanum
  | .alpha => c.isAlpha
  | .ascii => true
  | .blank => c == ' ' || c == '\t'
  | .cntrl => c.toNat < 32 || c.toNat == 127
  | .digit => c.isDigit
  | .graph => 33 ≤ c.toNat && c.toNat ≤ 126
  | .lower => c.isLower
  | .print => 32 ≤ c.toNat && c.toNat ≤ 126
  | .punct => 33 ≤ c.toNat && c.toNat ≤ 126 && !c.isAlphanum
  | .space => isAsciiSpace c
  | .upper => c.isUpper
  | .word => isAsciiWordChar c
  | .xdigit => isHexDigit c

def NamedClass.set (name : NamedClass) : RangeSet :=
  asciiSet name.contains

def ShortClass.set (m : Mode) : ShortClass → RangeSet
  | .digit => if m.unicode then Unicode.GeneralCategory.decimalNumber else asciiSet Char.isDigit
  | .space => if m.unicode then Unicode.whiteSpace else asciiSet isAsciiSpace
  | .word => if m.unicode then Unicode.wordCharacters else asciiSet isAsciiWordChar

/-- The characters that a query asks for, and whether it is for all others. -/
def PropertyQuery.set? : PropertyQuery → Option (RangeSet × Bool)
  | .named name => (Unicode.charactersOf? name).map fun set => (set, false)
  | .valued property value differs =>
    (Unicode.charactersWith? property value).map fun set => (set, differs)

/-- The characters that a query asks for, as a part of a pattern. -/
def Mode.propertySet (m : Mode) (negated : Bool) (query : PropertyQuery) : Option RangeSet :=
  if m.unicode then
    query.set?.bind fun (set, differs) => m.negate (negated != differs) (m.fold set)
  else
    none

/-- The combination of two sets of characters. -/
def ClassOperator.apply (operator : ClassOperator) (left right : RangeSet) : RangeSet :=
  match operator with
  | .intersection => left ∩ right
  | .difference => left \ right
  | .symmetricDifference => left.symmetricDifference right

/-- Whether a character can be a member of a class: in one of bytes it has to be a single
byte. -/
def Literal.isMember (m : Mode) (l : Literal) : Bool :=
  m.unicode || l.isByte || l.char.toNat < 128

mutual

def ClassSet.set (m : Mode) : ClassSet → Option RangeSet
  | .literal l => if l.isMember m then some (.single l.char) else none
  | .range first last =>
    if first.isMember m && last.isMember m then
      some (.ofRange first.char.toNat last.char.toNat)
    else
      none
  | .short negated name => m.negate negated (name.set m)
  | .named negated name => m.negate negated (m.fold name.set)
  | .property negated query => m.propertySet negated query
  | .bracketed negated inner => (inner.set m).bind fun set => m.negate negated (m.fold set)
  | .union parts => ClassSet.setOfAll m parts
  | .combined operator left right =>
    match left.set m, right.set m with
    | some left, some right => some (operator.apply (m.fold left) (m.fold right))
    | _, _ => none

/-- The characters of some classes taken together. -/
def ClassSet.setOfAll (m : Mode) : List ClassSet → Option RangeSet
  | [] => some .empty
  | part :: rest =>
    match part.set m, ClassSet.setOfAll m rest with
    | some first, some others => some (first ∪ others)
    | _, _ => none

end

def Mode.dotSet (m : Mode) : RangeSet :=
  if m.dotMatchesLineBreak then
    .all
  else if m.carriageReturns then
    (RangeSet.single '\n' ∪ .single '\r').complement
  else
    (RangeSet.single '\n').complement

/-! ## Patterns -/

def Edge.boundary (m : Mode) : Edge → Boundary
  | .lineStart => if m.multiLine then .lineStart m.carriageReturns else .textStart
  | .lineEnd => if m.multiLine then .lineEnd m.carriageReturns else .textEnd
  | .textStart => .textStart
  | .textEnd => .textEnd
  | .word edge => .word edge m.unicode

def Mode.setMatcher (m : Mode) (set : RangeSet) : Matcher :=
  .ofSet set (!m.unicode)

/-- What a character covers.  A byte beyond ASCII is a part of a character at most. -/
def Literal.matcher (m : Mode) (l : Literal) : Option Matcher :=
  if !m.unicode && l.isByte && 128 ≤ l.char.toNat then
    none
  else
    some (m.setMatcher (m.fold (.single l.char)))

def GroupKind.matcher (kind : GroupKind) (inner : Matcher) : Matcher :=
  match kind with
  | .capturing => .group inner
  | .withFlags _ => inner

mutual

/-- What a part of a pattern covers, and the mode behind it. -/
def Node.matcher (m : Mode) : Node → Option (Matcher × Mode)
  | .flags changes => some (.empty, m.change changes)
  | .literal l => (l.matcher m).map (·, m)
  | .dot => if m.unicode then some (m.setMatcher m.dotSet, m) else none
  | .edge e => some (.boundary (e.boundary m), m)
  | .short negated name => (m.negate negated (name.set m)).map (m.setMatcher ·, m)
  | .property negated query => (m.propertySet negated query).map (m.setMatcher ·, m)
  | .bracketed negated inner =>
    ((inner.set m).bind fun set => m.negate negated (m.fold set)).map (m.setMatcher ·, m)
  | .repeated inner least most preferShort =>
    (inner.matcher m).map fun (inner, m) =>
      (inner.repeated least most (preferShort != m.preferShort), m)
  | .group kind branches =>
    (Node.choiceMatchers (m.change kind.changes) branches).map fun matchers =>
      (kind.matcher (.anyOf matchers), m)

/-- What the parts of a sequence cover, and the mode behind it. -/
def Node.sequenceMatchers (m : Mode) : List Node → Option (List Matcher × Mode)
  | [] => some ([], m)
  | part :: rest =>
    match part.matcher m with
    | none => none
    | some (first, m) =>
      (Node.sequenceMatchers m rest).map fun (others, m) => (first :: others, m)

/-- What the branches of a choice between sequences cover. -/
def Node.choiceMatchers (m : Mode) : List (List Node) → Option (List Matcher)
  | [] => some []
  | branch :: rest =>
    match Node.sequenceMatchers m branch with
    | none => none
    | some (parts, m) =>
      (Node.choiceMatchers m rest).map fun others => .inSequence parts :: others

end

/-- What a whole pattern covers. -/
def Written.matcher (w : Written) : Option Matcher :=
  (Node.choiceMatchers .start w).map .anyOf

/-- The pattern that a text spells, if it is one and not too large. -/
def ofString? (text : String) : Option TitlePattern :=
  ((Written.ofString? text).bind Written.matcher).bind fun m =>
    if m.fits then some ⟨text, m.accepts⟩ else none

end WindowPlacement.TitlePattern
