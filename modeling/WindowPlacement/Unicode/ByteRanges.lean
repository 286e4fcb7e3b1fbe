import WindowPlacement.Unicode.RangeSet

/-!
# Sets of characters as ranges of bytes

An automaton that reads a text byte by byte takes a set of characters apart: a range of
code points becomes one or more sequences of byte ranges, such that a character is in the
range if each byte of its encoding lies in the range at its place of one of the sequences.
Sequences that follow each other and start alike make up a tree.
-/

namespace WindowPlacement.Unicode

/-- Cut a range at the multiples of a number such that at most one piece, in the middle,
touches several blocks, and this one has whole blocks only. -/
def splitAtBlocks (block : Nat) (range : Range) : List Range :=
  let (low, high) := range
  if low / block = high / block then
    [range]
  else
    let lowEnd := if low % block = 0 then low else (low / block + 1) * block
    let highStart := if high % block = block - 1 then high + 1 else high / block * block
    (if low < lowEnd then [(low, lowEnd - 1)] else []) ++
      (if lowEnd < highStart then [(lowEnd, highStart - 1)] else []) ++
      if highStart ≤ high then [(highStart, high)] else []

/-- The code points whose encodings have a given number of bytes behind the first. -/
def encodingClass : Nat → Range
  | 0 => (0, 0x7F)
  | 1 => (0x80, 0x7FF)
  | 2 => (0x800, 0xFFFF)
  | _ => (0x10000, 0x10FFFF)

/-- The first byte of an encoding, without the bits of the code point. -/
def leadingMark : Nat → Nat
  | 0 => 0
  | 1 => 0xC0
  | 2 => 0xE0
  | _ => 0xF0

/-- The bytes behind the first one of an encoding with so many of them. -/
def continuationBytes : Nat → Nat → List Nat
  | 0, _ => []
  | count + 1, n => (0x80 + n / Nat.pow 64 count % 64) :: continuationBytes count n

/-- The encoding of a code point with a given number of bytes behind the first. -/
def encodingWith (count n : Nat) : List Nat :=
  (leadingMark count + n / Nat.pow 64 count) :: continuationBytes count n

/-- The sequences of byte ranges for a range of code points whose encodings have a given
number of bytes behind the first. -/
def sequencesOfLength (count : Nat) (range : Range) : List (List Range) :=
  let pieces := (List.range count).foldl
    (fun pieces i => pieces.flatMap (splitAtBlocks (Nat.pow 64 (i + 1)))) [range]
  pieces.map fun piece => (encodingWith count piece.1).zip (encodingWith count piece.2)

def byteSequencesOfRange (range : Range) : List (List Range) :=
  (List.range 4).flatMap fun count =>
    let bounds := encodingClass count
    let low := max range.1 bounds.1
    let high := min range.2 bounds.2
    if low ≤ high then sequencesOfLength count (low, high) else []

def RangeSet.byteSequences (s : RangeSet) : List (List Range) :=
  s.ranges.flatMap byteSequencesOfRange

/-- Sequences of byte ranges, as a tree in which those that follow each other share what they
have in common at their beginnings.  A tree without branches is the end of a sequence. -/
inductive ByteTree
  | node (branches : List (Range × ByteTree))

def ByteTree.ofSequences : Nat → List (List Range) → ByteTree
  | 0, _ => .node []
  | length + 1, sequences =>
    let groups := (sequences.filter fun s => !s.isEmpty).splitBy fun s t => s.head? == t.head?
    .node (groups.filterMap fun group =>
      match group with
      | (range :: _) :: _ => some (range, ofSequences length (group.map List.tail))
      | _ => none)

def RangeSet.byteTree (s : RangeSet) : ByteTree :=
  .ofSequences 4 s.byteSequences

end WindowPlacement.Unicode
