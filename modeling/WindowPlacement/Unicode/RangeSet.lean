/-!
# Sets of characters

A set of characters is kept as the code points at which membership changes, in increasing
order: the first code point in the set, the first one behind it that is not, and so on.
`contains` finds its place among them by binary search, and the combinations of two sets
walk along both of them once.

The tables of Unicode properties are written as text: ranges of hexadecimal code points in
increasing order, separated by single spaces, with a hyphen between the ends of a range of
more than one character.
-/

namespace WindowPlacement.Unicode

/-- The first index from `low` up to `high` for which a condition fails, if it holds for
an initial part of the indices. -/
def partitionPoint (condition : Nat → Bool) (low high : Nat) : Nat :=
  if low < high then
    let middle := (low + high) / 2
    if condition middle then
      partitionPoint condition (middle + 1) high
    else
      partitionPoint condition low middle
  else
    low
termination_by high - low

abbrev Range :=
  Nat × Nat

/-- A set of characters, as the code points at which membership changes. -/
structure RangeSet where
  flips : Array Nat
  deriving DecidableEq, Repr

namespace RangeSet

def empty : RangeSet :=
  ⟨#[]⟩

def all : RangeSet :=
  ⟨#[0, 0xD800, 0xE000, 0x110000]⟩

def single (c : Char) : RangeSet :=
  ⟨#[c.toNat, c.toNat + 1]⟩

/-- Whether a code point is in the set: an odd number of changes has been passed. -/
def containsCode (s : RangeSet) (n : Nat) : Bool :=
  partitionPoint (fun i => s.flips[i]?.any (· ≤ n)) 0 s.flips.size % 2 == 1

def contains (s : RangeSet) (c : Char) : Bool :=
  s.containsCode c.toNat

/-- Note a change at a code point, if there is one. -/
def noteFlip (n : Nat) (before behind : Bool) (flips : List Nat) : List Nat :=
  if before == behind then flips else n :: flips

/-- The changes of a combination of two sets from a place on: what the sets have there and
where they change behind it. -/
def combineFlips (op : Bool → Bool → Bool) (left right : Bool) :
    List Nat → List Nat → List Nat
  | [], [] => []
  | a :: s, [] => noteFlip a (op left right) (op (!left) right) (combineFlips op (!left) right s [])
  | [], b :: t => noteFlip b (op left right) (op left (!right)) (combineFlips op left (!right) [] t)
  | a :: s, b :: t =>
    if a < b then
      noteFlip a (op left right) (op (!left) right) (combineFlips op (!left) right s (b :: t))
    else if b < a then
      noteFlip b (op left right) (op left (!right)) (combineFlips op left (!right) (a :: s) t)
    else
      noteFlip a (op left right) (op (!left) (!right)) (combineFlips op (!left) (!right) s t)
termination_by s t => s.length + t.length

/-- The characters for which a combination of their memberships in two sets holds.  It must
not hold of what is in neither. -/
def combine (op : Bool → Bool → Bool) (s t : RangeSet) : RangeSet :=
  ⟨(combineFlips op false false s.flips.toList t.flips.toList).toArray⟩

instance : Union RangeSet :=
  ⟨combine (· || ·)⟩

instance : Inter RangeSet :=
  ⟨combine (· && ·)⟩

instance : SDiff RangeSet :=
  ⟨combine fun left right => left && !right⟩

/-- The characters in one of two sets but not in both. -/
def symmetricDifference (s t : RangeSet) : RangeSet :=
  combine (· != ·) s t

def complement (s : RangeSet) : RangeSet :=
  all \ s

/-- The characters with code points from a first to a last one. -/
def ofRange (first last : Nat) : RangeSet :=
  all ∩ ⟨#[first, last + 1]⟩

/-- The changes of the set of some code points in increasing order. -/
def flipsOfCodes : List Nat → List Nat
  | [] => []
  | n :: rest =>
    match flipsOfCodes rest with
    | m :: flips =>
      if m = n then
        m :: flips
      else if m = n + 1 then
        n :: flips
      else
        n :: (n + 1) :: m :: flips
    | [] => [n, n + 1]

/-- The set of some code points in increasing order. -/
def ofCodes (codes : List Nat) : RangeSet :=
  ⟨(flipsOfCodes codes).toArray⟩

def rangesOfFlips : List Nat → List Range
  | first :: behind :: rest => (first, behind - 1) :: rangesOfFlips rest
  | _ => []

/-- The ranges of code points that make up a set, in increasing order. -/
def ranges (s : RangeSet) : List Range :=
  rangesOfFlips s.flips.toList

def isEmpty (s : RangeSet) : Bool :=
  s.flips.isEmpty

def char? (s : RangeSet) : Option Char :=
  match s.ranges with
  | [(first, last)] => if first = last then some (Char.ofNat first) else none
  | _ => none

def isAscii (s : RangeSet) : Bool :=
  s.flips.all (· ≤ 128)

/-! ## Tables -/

/-- The value of a hexadecimal digit in upper case. -/
def hexValue (c : Char) : Nat :=
  if c.isDigit then c.toNat - '0'.toNat else c.toNat - 'A'.toNat + 10

/-- The progress in reading a table: the finished ranges, the first end of the range
being read if a hyphen has been seen, and the number being read. -/
structure Progress where
  flips : Array Nat
  first : Option Nat
  number : Nat

/-- The changes up to behind the range being read. -/
def Progress.finish (p : Progress) : Array Nat :=
  (p.flips.push (p.first.getD p.number)).push (p.number + 1)

/-- Read one character of a table. -/
def Progress.step (p : Progress) (c : Char) : Progress :=
  if c == ' ' then
    ⟨p.finish, none, 0⟩
  else if c == '-' then
    ⟨p.flips, some p.number, 0⟩
  else
    { p with number := 16 * p.number + hexValue c }

/-- The set that the lines of a table describe. -/
def ofLines (lines : List String) : RangeSet :=
  ⟨lines.foldl (fun flips line => (line.toList.foldl Progress.step ⟨flips, none, 0⟩).finish) #[]⟩

end RangeSet

end WindowPlacement.Unicode
