import WindowPlacement.TitlePattern.Notation

/-!
# Reading title patterns: classes in brackets

A class in brackets lists characters, ranges, escapes and further classes, and may combine
what stands before and behind an operator.  Operators bind equally tightly, from left to
right, and more loosely than the juxtaposition of the listed parts.
-/

namespace WindowPlacement.TitlePattern

open Text (Reader isBlank)
open Text.Reader (require fail next peek lookAhead skipChar takeWhile takeWhileSkipping)

/-- Something that is open while a class is read: a bracket, with the parts in front of it,
or an operator, with its left operand. -/
inductive ClassFrame
  | bracket (negated : Bool) (before : List ClassSet)
  | operator (operator : ClassOperator) (left : ClassSet)

/-- The progress in reading a class: the parts read behind the innermost frame, the last
one first, and the frames, the innermost one first. -/
structure ClassProgress where
  parts : List ClassSet
  frames : List ClassFrame

namespace ClassProgress

def push (p : ClassProgress) (part : ClassSet) : ClassProgress :=
  { p with parts := part :: p.parts }

/-- What the parts read so far amount to, with the operator in front of them, and the frames
around it. -/
def operand (p : ClassProgress) : ClassSet × List ClassFrame :=
  let right := ClassSet.union p.parts.reverse
  match p.frames with
  | .operator operator left :: frames => (.combined operator left right, frames)
  | frames => (right, frames)

/-- Take what has been read as the left operand of an operator. -/
def startOperator (p : ClassProgress) (operator : ClassOperator) : ClassProgress :=
  let (left, frames) := p.operand
  ⟨[], .operator operator left :: frames⟩

/-- Close the innermost bracket.  The answer is the whole class if it was the outermost. -/
def closeBracket (p : ClassProgress) : Option (ClassProgress ⊕ (Bool × ClassSet)) :=
  match p.operand with
  | (inner, [.bracket negated _]) => some (.inr (negated, inner))
  | (inner, .bracket negated before :: frames) =>
    some (.inl ⟨.bracketed negated inner :: before, frames⟩)
  | _ => none

end ClassProgress

/-- Read the beginning of a class behind its opening bracket: whether it is negated, and the
characters that are only there listed as they are. -/
def classStart (verbose : Bool) : Reader (Bool × List ClassSet) := do
  skipSpace verbose
  let negated ← skipChar '^'
  if negated then
    skipSpace verbose
  let hyphens ← takeWhileSkipping (· == '-') (skipSpace verbose)
  if hyphens.isEmpty then
    let bracket ← skipChar ']'
    if bracket then
      skipSpace verbose
      pure (negated, [.literal ⟨']', false⟩])
    else
      pure (negated, [])
  else
    pure (negated, hyphens.map fun c => .literal ⟨c, false⟩)

def NamedClass.ofName? (name : List Char) : Option NamedClass :=
  match String.ofList name with
  | "alnum" => some .alnum
  | "alpha" => some .alpha
  | "ascii" => some .ascii
  | "blank" => some .blank
  | "cntrl" => some .cntrl
  | "digit" => some .digit
  | "graph" => some .graph
  | "lower" => some .lower
  | "print" => some .print
  | "punct" => some .punct
  | "space" => some .space
  | "upper" => some .upper
  | "word" => some .word
  | "xdigit" => some .xdigit
  | _ => none

/-- Read a class with a name between colons, behind its opening bracket. -/
def namedClass : Reader ClassSet := do
  Reader.expect [':']
  let negated ← skipChar '^'
  let name ← takeWhile (· != ':')
  Reader.expect [':', ']']
  let named ← Reader.ofOption (NamedClass.ofName? name)
  pure (.named negated named)

/-- A part of a pattern as a part of a class.  Edges are none. -/
def Node.toClassSet? : Node → Option ClassSet
  | .literal l => some (.literal l)
  | .short negated name => some (.short negated name)
  | .property negated query => some (.property negated query)
  | _ => none

/-- A part of a pattern as an end of a range, which has to be a character. -/
def Node.toLiteral? : Node → Option Literal
  | .literal l => some l
  | _ => none

/-- Read a part of a class whose first character has been read. -/
def classItem (verbose : Bool) (c : Char) : Reader Node :=
  if c == '\\' then escape verbose else pure (.char c)

/-- The character that decides whether a hyphen makes a range, from the text behind the
hyphen.  In a verbose pattern it is the one behind blanks, a number sign and blanks. -/
def behindHyphen (verbose : Bool) (s : List Char) : Option Char :=
  if verbose then
    let behind :=
      match s.dropWhile isBlank with
      | '#' :: rest => rest.dropWhile isBlank
      | rest => rest
    if behind.isEmpty then s.head? else behind.head?
  else
    s.head?

/-- Whether a text starts with a hyphen that makes a range. -/
def startsRange (verbose : Bool) : List Char → Bool
  | '-' :: rest =>
    behindHyphen verbose rest != some ']' && behindHyphen verbose rest != some '-'
  | _ => false

/-- Read a part of a class, or a range that starts with it, from its first character. -/
def classRange (verbose : Bool) (c : Char) : Reader ClassSet := do
  let first ← classItem verbose c
  skipSpace verbose
  let s ← lookAhead
  if startsRange verbose s then
    let _ ← nextSpaced verbose
    let d ← next
    let last ← classItem verbose d
    let first ← Reader.ofOption first.toLiteral?
    let last ← Reader.ofOption last.toLiteral?
    require (first.char ≤ last.char)
    pure (.range first last)
  else
    Reader.ofOption first.toClassSet?

/-- The operator that a character stands for when it is doubled. -/
def ClassOperator.ofChar? : Char → Option ClassOperator
  | '&' => some .intersection
  | '-' => some .difference
  | '~' => some .symmetricDifference
  | _ => none

def classStep (verbose : Bool) (p : ClassProgress) (c : Char) :
    Reader (ClassProgress ⊕ (Bool × ClassSet)) := do
  if verbose && isBlank c then
    pure (.inl p)
  else if verbose && c == '#' then
    skipComment
    pure (.inl p)
  else if c == '[' then
    let named ← Reader.attempt namedClass
    match named with
    | some part => pure (.inl (p.push part))
    | none =>
      let (negated, parts) ← classStart verbose
      pure (.inl ⟨parts, .bracket negated p.parts :: p.frames⟩)
  else if c == ']' then
    Reader.ofOption p.closeBracket
  else
    let following ← peek
    match ClassOperator.ofChar? c, following == some c with
    | some operator, true =>
      let _ ← next
      pure (.inl (p.startOperator operator))
    | _, _ =>
      let part ← classRange verbose c
      pure (.inl (p.push part))

/-- Read a class behind its opening bracket: whether it is negated, and its characters. -/
def bracketedClass (verbose : Bool) : Reader (Bool × ClassSet) := do
  let (negated, parts) ← classStart verbose
  Reader.loop (classStep verbose) (fun _ => none) ⟨parts, [.bracket negated []]⟩

end WindowPlacement.TitlePattern
