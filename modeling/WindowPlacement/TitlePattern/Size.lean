import Std.Data.HashMap
import WindowPlacement.TitlePattern.Composition
import WindowPlacement.TitlePattern.LiteralTree
import WindowPlacement.Unicode.ByteRanges

/-!
# The size of title patterns

A pattern is good only if automata for it fit into a bounded amount of memory: one that
reads titles forwards and notes where groups start and end, and one that reads backwards.
Both read single bytes.  A repetition holds its part as many times as its counts ask for,
which is what makes short patterns large.

What the states of a part take is known beforehand, unless the part has sets with characters
beyond ASCII.  The states of such a set are shared where they are the same as others of this
set, as far as a table with a fixed number of places remembers them, and which places these
are depends on the numbers of the states.  So a blueprint of the automaton is made first, and
then followed to count states and bytes, up to the limit.
-/

namespace WindowPlacement.TitlePattern

open Unicode (Range RangeSet ByteTree)

def stateSize : Nat :=
  32

/-- What a transition adds that asks for a byte, to a state that can have several of them. -/
def transitionSize : Nat :=
  8

/-- What a transition adds that asks for nothing. -/
def branchSize : Nat :=
  4

/-- The size of a state from which two ways lead on. -/
def forkSize : Nat :=
  stateSize + 2 * branchSize

/-- The largest size that is allowed. -/
def sizeLimit : Nat :=
  10 * 1024 * 1024

/-- The states an automaton has so far, and the bytes they take. -/
structure Extent where
  states : Nat
  bytes : Nat
  deriving DecidableEq, Repr

/-- Add states, as long as they fit. -/
def Extent.add (e : Extent) (states bytes : Nat) : Option Extent :=
  if e.bytes + bytes ≤ sizeLimit then some ⟨e.states + states, e.bytes + bytes⟩ else none

/-! ## Sets of characters -/

def mixHash (hash : UInt64) (n : Nat) : UInt64 :=
  (hash ^^^ n.toUInt64) * 1099511628211

def hashOf (numbers : List Nat) : Nat :=
  (numbers.foldl mixHash 14695981039346656037).toNat

/-- An automaton that is being built, with the states that are remembered: each place of
the table has the numbers that describe a state, and the number of the state. -/
structure Building where
  extent : Extent
  table : Std.HashMap Nat (List Nat × Nat)

namespace Building

/-- The number of the state with a description.  One of a given size is added unless the
state is remembered in a table with so many places. -/
def stateFor (b : Building) (places : Nat) (description : List Nat) (size : Nat) :
    Nat × Building :=
  let place := hashOf description % places
  let number := b.extent.states
  let added : Building :=
    ⟨⟨number + 1, b.extent.bytes + size⟩, b.table.insert place (description, number)⟩
  match b.table[place]? with
  | some (remembered, state) => if remembered = description then (state, b) else (number, added)
  | none => (number, added)

mutual

/-- Add the states that read what a tree has, and go on to a final state.  The answer has the
number of the first state. -/
def addTree (final : Nat) : ByteTree → Building → Nat × Building
  | .node branches, b =>
    if branches.isEmpty then
      (final, b)
    else
      let (transitions, b) := addBranches final branches b
      b.stateFor 10000 transitions (stateSize + transitionSize * branches.length)

/-- Add the states that some branches lead to.  The answer has the transitions to them: for
each of them the ends of its range, and the number of the state. -/
def addBranches (final : Nat) : List (Range × ByteTree) → Building → List Nat × Building
  | [], b => ([], b)
  | ((first, last), tree) :: rest, b =>
    let (state, b) := addTree final tree b
    let (transitions, b) := addBranches final rest b
    (first :: last :: state :: transitions, b)

end

/-- Add the states that read a sequence of byte ranges from its end to its beginning, and go
on to a given state. -/
def addBackwards (b : Building) (next : Nat) : List Range → Building
  | [] => b
  | (first, last) :: rest =>
    let (state, b) := b.stateFor 1000 [next, first, last] stateSize
    b.addBackwards state rest

end Building

/-- Add the states that read a character of a set forwards. -/
def Extent.addSet (e : Extent) (tree : ByteTree) : Extent :=
  (Building.addTree e.states tree ⟨⟨e.states + 1, e.bytes + stateSize⟩, ∅⟩).2.extent

/-- Add the states that read a character of a set backwards. -/
def Extent.addSetBackwards (e : Extent) (sequences : List (List Range)) : Extent :=
  let start : Extent :=
    ⟨e.states + 2, e.bytes + 2 * stateSize + branchSize * sequences.length⟩
  (sequences.foldl (fun b sequence => b.addBackwards (e.states + 1) sequence)
    (⟨start, ∅⟩ : Building)).extent

/-! ## Blueprints -/

/-- What states to add to an automaton, one after the other. -/
inductive Blueprint
  | states (count bytes : Nat)
  | set (tree : ByteTree)
  | setBackwards (sequences : List (List Range))
  | sequence (first second : Blueprint)
  | copies (count : Nat) (part : Blueprint)

namespace Blueprint

def state (bytes : Nat) : Blueprint :=
  .states 1 bytes

/-- Two blueprints one after the other. -/
def append : Blueprint → Blueprint → Blueprint
  | .states count bytes, .states others size => .states (count + others) (bytes + size)
  | first, second => .sequence first second

instance : Append Blueprint :=
  ⟨append⟩

/-- Some blueprints one after the other. -/
def join (parts : List Blueprint) : Blueprint :=
  parts.foldr append (.states 0 0)

/-- As many copies of a blueprint as given. -/
def times (count : Nat) : Blueprint → Blueprint
  | .states number bytes => .states (count * number) (count * bytes)
  | part => .copies count part

/-- Apply a step as often as given, as long as it succeeds. -/
def iterate (step : Extent → Option Extent) : Nat → Extent → Option Extent
  | 0, e => some e
  | count + 1, e =>
    match step e with
    | none => none
    | some e => iterate step count e

/-- Add the states of a blueprint to an automaton, as long as they fit. -/
def addTo : Blueprint → Extent → Option Extent
  | .states count bytes, e => e.add count bytes
  | .set tree, e => (e.addSet tree).add 0 0
  | .setBackwards sequences, e => (e.addSetBackwards sequences).add 0 0
  | .sequence first second, e =>
    match first.addTo e with
    | none => none
    | some e => second.addTo e
  | .copies count part, e => iterate part.addTo count e

def fits (b : Blueprint) : Bool :=
  (b.addTo ⟨0, 0⟩).isSome

end Blueprint

/-! ## Choices between texts -/

namespace LiteralTree

def layerBlueprint (layer : List (Nat × LiteralTree)) : Blueprint :=
  match layer.length with
  | 0 => .states 0 0
  | 1 => .state stateSize
  | count => .state (stateSize + transitionSize * count)

def countLayers (layers : List (List (Nat × LiteralTree))) : Nat :=
  layers.countP fun layer => !layer.isEmpty

mutual

/-- The states of a tree.  A node without branches is no state. -/
def blueprint : LiteralTree → Blueprint
  | .node closed layer =>
    let count := countLayers (closed ++ [layer])
    if count = 0 then
      .states 0 0
    else
      layersBlueprint closed ++ branchesBlueprint layer ++ layerBlueprint layer ++
        .state (stateSize + branchSize * (count + closed.length))

/-- The states of some layers and the trees below them. -/
def layersBlueprint : List (List (Nat × LiteralTree)) → Blueprint
  | [] => .states 0 0
  | layer :: rest => branchesBlueprint layer ++ layerBlueprint layer ++ layersBlueprint rest

/-- The states of the trees below a layer. -/
def branchesBlueprint : List (Nat × LiteralTree) → Blueprint
  | [] => .states 0 0
  | (_, tree) :: rest => tree.blueprint ++ branchesBlueprint rest

end

end LiteralTree

/-! ## Matchers -/

namespace Matcher

def bytesOf (text : List Char) : List Nat :=
  text.flatMap fun c => (String.utf8EncodeChar c).map UInt8.toNat

def setBlueprint (backward : Bool) (chars : RangeSet) : Blueprint :=
  if chars.isAscii then
    .states 2 (2 * stateSize + transitionSize * chars.ranges.length)
  else if backward then
    .setBackwards chars.byteSequences
  else
    .set chars.byteTree

/-- The states of as many copies of a part as given.  None at all are an empty state. -/
def exactly (part : Blueprint) (count : Nat) : Blueprint :=
  if count = 0 then .state stateSize else part.times count

/-- The states of a repetition, from those of its part and whether this covers no empty
stretches. -/
def repetitionBlueprint (part : Blueprint) (neverEmpty : Bool) (least : Nat)
    (most : Option Nat) : Blueprint :=
  match least, most with
  | 0, some 1 => .state forkSize ++ part ++ .state stateSize
  | 0, none =>
    if neverEmpty then
      .state forkSize ++ part
    else
      part ++ .state forkSize ++ .state forkSize ++ .state stateSize
  | least + 1, none => part.times (least + 1) ++ .state forkSize
  | least, some most =>
    if least = most then
      exactly part least
    else
      exactly part least ++ .state stateSize ++ (.state forkSize ++ part).times (most - least)

def text? : Matcher → Option (List Char)
  | .literal text => some text
  | _ => none

/-- The states of a choice, from those of its branches: behind the first two of them come
the state where they part and the one where they meet. -/
def choiceBlueprint : List Blueprint → Blueprint
  | first :: second :: rest =>
    first ++ second ++ .state (stateSize + branchSize * (rest.length + 2)) ++ .state stateSize ++
      .join rest
  | branches => .join branches

/-- The states of a choice between texts, in one direction. -/
def textsBlueprint (backward : Bool) (texts : List (List Char)) : Blueprint :=
  let bytes := texts.map fun text =>
    if backward then (bytesOf text).reverse else bytesOf text
  .state stateSize ++ (LiteralTree.ofTexts bytes).blueprint

mutual

/-- The states of a matcher, in one direction. -/
def blueprint (backward : Bool) : Matcher → Blueprint
  | .empty | .boundary _ => .state stateSize
  | .literal text =>
    let count := (text.map Char.utf8Size).sum
    .states count (count * stateSize)
  | .set chars _ => setBlueprint backward chars
  | .repetition inner least most _ =>
    repetitionBlueprint (inner.blueprint backward) (inner.leastLength.any (0 < ·)) least most
  | .group inner =>
    if backward then
      inner.blueprint backward
    else
      .state stateSize ++ inner.blueprint backward ++ .state stateSize
  | .sequence parts =>
    let parts := blueprints backward parts
    .join (if backward then parts.reverse else parts)
  | .choice branches =>
    match branches.mapM text? with
    | some texts => textsBlueprint backward texts
    | none => choiceBlueprint (blueprints backward branches)

/-- The states of some matchers, in one direction. -/
def blueprints (backward : Bool) : List Matcher → List Blueprint
  | [] => []
  | m :: rest => m.blueprint backward :: blueprints backward rest

end

mutual

/-- Whether every stretch that is covered starts at the start of the title, as far as the
outer parts of a matcher tell, or ends at its end if it is looked at backwards. -/
def isAnchored (backward : Bool) : Matcher → Bool
  | .boundary b => b == if backward then .textEnd else .textStart
  | .repetition inner least _ _ => least != 0 && inner.isAnchored backward
  | .group inner => inner.isAnchored backward
  | .sequence parts => anyAnchored backward parts
  | .choice branches => allAnchored backward branches
  | _ => false

/-- Whether one of some parts is anchored that only empty stretches come before, or behind. -/
def anyAnchored (backward : Bool) : List Matcher → Bool
  | [] => false
  | part :: rest =>
    if backward then
      anyAnchored backward rest || (areAlwaysEmpty rest && part.isAnchored backward)
    else
      part.isAnchored backward || (part.isAlwaysEmpty && anyAnchored backward rest)

def allAnchored (backward : Bool) : List Matcher → Bool
  | [] => true
  | branch :: rest => branch.isAnchored backward && allAnchored backward rest

end

/-- The states in front of those of a pattern: if it is not anchored, those that skip the
beginning of a title. -/
def startBlueprint (anchored : Bool) : Blueprint :=
  if anchored then
    .state stateSize
  else
    .states 3 (forkSize + 2 * stateSize + transitionSize)

/-- The states of the automaton for a whole pattern, in one direction. -/
def automaton (m : Matcher) (backward : Bool) : Blueprint :=
  let whole : Matcher := .group m
  startBlueprint (m.isAnchored backward) ++ whole.blueprint backward ++ .state stateSize

/-- Whether a matcher is a choice between so many texts that no automaton is made. -/
def isWordList : Matcher → Bool
  | .choice branches => 3000 ≤ branches.length && (branches.mapM text?).isSome
  | _ => false

def fits (m : Matcher) : Bool :=
  m.isWordList || ((m.automaton false).fits && (m.automaton true).fits)

end Matcher

end WindowPlacement.TitlePattern
