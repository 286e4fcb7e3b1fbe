import WindowPlacement.TitlePattern.Matcher

/-!
# Putting matchers together

The functions of this module build a matcher from others and leave out what makes no
difference: sequences within sequences and choices within choices, what covers the empty
stretch only, and choices between single characters, which are sets.  Branches that start
with the same parts share them.
-/

namespace WindowPlacement.TitlePattern

open Unicode (RangeSet)

namespace Matcher

/-! ## What matchers have in common -/

mutual

/-- Whether two matchers are the same.  Groups never are, since each of them notes a stretch
of its own. -/
def isSame : Matcher → Matcher → Bool
  | .empty, .empty => true
  | .literal s, .literal t => s == t
  | .set s sBytes, .set t tBytes => s == t && sBytes == tBytes
  | .boundary a, .boundary b => a == b
  | .repetition s sLeast sMost sShort, .repetition t tLeast tMost tShort =>
    sLeast == tLeast && sMost == tMost && sShort == tShort && s.isSame t
  | .sequence s, .sequence t => areSame s t
  | .choice s, .choice t => areSame s t
  | _, _ => false

/-- Whether two lists of matchers are the same. -/
def areSame : List Matcher → List Matcher → Bool
  | [], [] => true
  | a :: s, b :: t => a.isSame b && areSame s t
  | _, _ => false

end

/-- The number of matchers that two lists have in common at their beginnings. -/
def commonLength : List Matcher → List Matcher → Nat
  | a :: s, b :: t => if a.isSame b then commonLength s t + 1 else 0
  | _, _ => 0

/-! ## How long stretches are -/

mutual

def isAlwaysEmpty : Matcher → Bool
  | .empty | .boundary _ => true
  | .literal _ | .set _ _ => false
  | .repetition inner _ most _ => most.isSome && inner.isAlwaysEmpty
  | .group inner => inner.isAlwaysEmpty
  | .sequence parts => areAlwaysEmpty parts
  | .choice branches => areAlwaysEmpty branches

/-- Whether all stretches that some matchers cover are empty. -/
def areAlwaysEmpty : List Matcher → Bool
  | [] => true
  | m :: rest => m.isAlwaysEmpty && areAlwaysEmpty rest

end

mutual

/-- The least number of characters of a stretch that is covered.  There is none if some
part of the matcher covers nothing at all. -/
def leastLength : Matcher → Option Nat
  | .empty | .boundary _ => some 0
  | .literal text => some text.length
  | .set chars _ => if chars.isEmpty then none else some 1
  | .repetition inner least _ _ => inner.leastLength.map (least * ·)
  | .group inner => inner.leastLength
  | .sequence parts => (leastLengths parts).map List.sum
  | .choice branches => (leastLengths branches).bind List.min?

/-- The least numbers of characters for some matchers. -/
def leastLengths : List Matcher → Option (List Nat)
  | [] => some []
  | m :: rest =>
    match m.leastLength, leastLengths rest with
    | some first, some others => some (first :: others)
    | _, _ => none

end

/-! ## Building -/

def nothing : Matcher :=
  .set .empty true

/-- What covers the characters of a set, which may be about single bytes. -/
def ofSet (chars : RangeSet) (bytes : Bool) : Matcher :=
  if chars.isEmpty then
    nothing
  else
    match chars.char? with
    | some c => .literal [c]
    | none => .set chars bytes

/-- What covers several stretches in a row that another matcher covers.  If those are all
empty, one of them is as good as many. -/
def repeated (inner : Matcher) (least : Nat) (most : Option Nat) (preferShort : Bool) : Matcher :=
  let (least, most) :=
    if inner.isAlwaysEmpty then
      (min least 1, some (min (most.getD 1) 1))
    else
      (least, most)
  match least, most with
  | 0, some 0 => .empty
  | 1, some 1 => inner
  | least, most => .repetition inner least most preferShort

/-- The parts of a sequence; any other matcher is its own only part. -/
def parts : Matcher → List Matcher
  | .sequence parts => parts
  | m => [m]

/-- Put a matcher in front of the parts of a sequence, where texts in a row become one. -/
def prependPart (first : Matcher) (parts : List Matcher) : List Matcher :=
  match first, parts with
  | .empty, parts => parts
  | .literal s, .literal t :: rest => .literal (s ++ t) :: rest
  | first, parts => first :: parts

/-- What covers stretches of some matchers one behind the other. -/
def inSequence (ms : List Matcher) : Matcher :=
  match (ms.flatMap parts).foldr prependPart [] with
  | [] => .empty
  | [m] => m
  | ms => .sequence ms

/-- The branches of a choice; any other matcher is its own only branch. -/
def branches : Matcher → List Matcher
  | .choice branches => branches
  | m => [m]

/-- The set of a text of a single character. -/
def singleLetter? : Matcher → Option RangeSet
  | .literal [c] => some (.single c)
  | _ => none

def chars? : Matcher → Option RangeSet
  | .set chars _ => some chars
  | _ => none

/-- The characters of some matchers together, if all of them are texts of a single character,
or if all of them are sets. -/
def charactersOfAll? (ms : List Matcher) : Option RangeSet :=
  ((ms.mapM singleLetter?).or (ms.mapM chars?)).map fun sets =>
    sets.foldr (fun set others => set ∪ others) .empty

/-- What one of some matchers covers, each of which stands for itself or for the branches of
a choice. -/
def inChoice (ms : List Matcher) : Matcher :=
  match ms.flatMap branches with
  | [] => nothing
  | [m] => m
  | ms =>
    match charactersOfAll? ms with
    | some chars => ofSet chars false
    | none => .choice ms

def sequenceParts? : Matcher → Option (List Matcher)
  | .sequence parts => some parts
  | _ => none

/-- The parts that sequences have in common at their beginnings, and the rests of the
sequences. -/
def shareStart? (ms : List Matcher) : Option (List Matcher × List (List Matcher)) :=
  match ms.mapM sequenceParts? with
  | some (first :: others) =>
    match others.foldl (fun length other => min length (commonLength first other)) first.length with
    | 0 => none
    | length => some (first.take length, (first :: others).map (List.drop length))
  | _ => none

def anyOf (ms : List Matcher) : Matcher :=
  match inChoice ms with
  | .choice ms =>
    match shareStart? ms with
    | some (start, rests) => inSequence (start ++ [inChoice (rests.map inSequence)])
    | none => .choice ms
  | m => m

end Matcher

end WindowPlacement.TitlePattern
