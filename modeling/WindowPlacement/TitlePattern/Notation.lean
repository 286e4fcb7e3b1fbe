import WindowPlacement.Text.Blank
import WindowPlacement.Text.Reader
import WindowPlacement.TitlePattern.Syntax
import WindowPlacement.Unicode.Alphanumeric

/-!
# Reading title patterns: the small parts

Readers for what stands at one place of a pattern: escapes, repetition counts, the names
of groups and the flags at the head of a group.

In a verbose pattern blanks mean nothing and a number sign starts a comment, almost
everywhere; so most of these readers skip them, if told so by their argument `verbose`.
-/

namespace WindowPlacement.TitlePattern

open Text (Reader isBlank)
open Text.Reader (require fail next peek lookAhead skipChar takeWhile takeWhileSkipping)

/-- What is left of a text without blanks and comments in front. -/
def dropSpace (inComment : Bool) : List Char → List Char
  | [] => []
  | c :: rest =>
    if inComment then
      dropSpace (c != '\n') rest
    else if isBlank c then
      dropSpace false rest
    else if c == '#' then
      dropSpace true rest
    else
      c :: rest

theorem length_dropSpace_le (inComment : Bool) (s : List Char) :
    (dropSpace inComment s).length ≤ s.length := by
  induction s generalizing inComment with
  | nil => simp [dropSpace]
  | cons c rest ih =>
    simp only [dropSpace]
    split
    · exact Nat.le_succ_of_le (ih _)
    · split
      · exact Nat.le_succ_of_le (ih _)
      · split
        · exact Nat.le_succ_of_le (ih _)
        · exact Nat.le_refl _

/-- Skip blanks and comments, in a verbose pattern. -/
def skipSpace (verbose : Bool) : Reader Unit :=
  if verbose then
    fun s => some ((), ⟨dropSpace false s, length_dropSpace_le false s⟩)
  else
    pure ()

/-- Skip the rest of a comment, and the blanks and comments behind it. -/
def skipComment : Reader Unit := fun s =>
  some ((), ⟨dropSpace true s, length_dropSpace_le true s⟩)

/-- Read one character and skip what means nothing behind it. -/
def nextSpaced (verbose : Bool) : Reader Char := do
  let c ← next
  skipSpace verbose
  pure c

/-! ## Numbers -/

/-- The value of a list of digits to a base. -/
def numberOfDigits (base : Nat) (digits : List Char) : Nat :=
  digits.foldl
    (fun value c =>
      base * value +
        if c.isDigit then c.toNat - '0'.toNat else c.toLower.toNat - 'a'.toNat + 10) 0

def isHexDigit (c : Char) : Bool :=
  c.isDigit || ('a' ≤ c && c ≤ 'f') || ('A' ≤ c && c ≤ 'F')

/-- Read the number of a repetition, of at most 32 bits, with blanks around it. -/
def count (verbose : Bool) : Reader Nat := do
  let _ ← takeWhile isBlank
  let digits ← takeWhileSkipping Char.isDigit (skipSpace verbose)
  let _ ← takeWhileSkipping isBlank (skipSpace verbose)
  let number := numberOfDigits 10 digits
  require (!digits.isEmpty && number < UInt32.size)
  pure number

/-- Read the counts of a repetition behind its opening brace: the least and, if there is
one, the greatest number of times, and whether it would rather be short. -/
def counts (verbose : Bool) : Reader (Nat × Option Nat × Bool) := do
  skipSpace verbose
  let least ← count verbose
  let comma ← skipChar ','
  let most ←
    if comma then do
      skipSpace verbose
      let c ← peek
      if c == some '\x7d' then
        pure none
      else
        let most ← count verbose
        pure (some most)
    else
      pure (some least)
  let closed ← skipChar '\x7d'
  require (closed && most.all (least ≤ ·))
  skipSpace verbose
  let preferShort ← skipChar '?'
  pure (least, most, preferShort)

/-- The character of a code point written in hexadecimal digits. -/
def charOfHex? (digits : List Char) : Option Char :=
  let number := numberOfDigits 16 digits
  if number.isValidChar then
    some (Char.ofNat number)
  else
    none

/-- Read a code point behind the letter that announces it: in braces, or with a fixed
number of digits. -/
def codePoint (verbose : Bool) (width : Nat) : Reader Literal := do
  skipSpace verbose
  let braced ← skipChar '\x7b'
  if braced then
    skipSpace verbose
    let digits ← takeWhileSkipping isHexDigit (skipSpace verbose)
    let closed ← skipChar '\x7d'
    require (closed && !digits.isEmpty)
    skipSpace verbose
    let c ← Reader.ofOption (charOfHex? digits)
    pure ⟨c, false⟩
  else
    let digits ← Reader.replicate (nextSpaced verbose) width
    require (digits.all isHexDigit)
    let c ← Reader.ofOption (charOfHex? digits)
    pure ⟨c, width == 2⟩

/-! ## Escapes -/

/-- The parts of a list before and behind the first place where two given elements follow
each other. -/
def splitAtPair (a b : Char) : List Char → Option (List Char × List Char)
  | c :: d :: rest =>
    if c = a ∧ d = b then
      some ([], rest)
    else
      (splitAtPair a b (d :: rest)).map fun (before, behind) => (c :: before, behind)
  | _ => none

/-- The parts of a list before and behind the first place of a given element. -/
def splitAtChar (a : Char) (s : List Char) : Option (List Char × List Char) :=
  match s.span (· != a) with
  | (before, _ :: behind) => some (before, behind)
  | (_, []) => none

/-- What a name in braces asks for: the characters with a property, or those for which a
property has a value or has not. -/
def PropertyQuery.ofName (name : List Char) : PropertyQuery :=
  match splitAtPair '!' '=' name with
  | some (property, value) => .valued property value true
  | none =>
    match splitAtChar ':' name with
    | some (property, value) => .valued property value false
    | none =>
      match splitAtChar '=' name with
      | some (property, value) => .valued property value false
      | none => .named name

/-- Read what property is asked for, behind the letter that announces it. -/
def propertyQuery (verbose : Bool) : Reader PropertyQuery := do
  skipSpace verbose
  let braced ← skipChar '\x7b'
  if braced then
    skipSpace verbose
    let name ← takeWhileSkipping (· != '\x7d') (skipSpace verbose)
    let closed ← skipChar '\x7d'
    require closed
    pure (.ofName name)
  else
    let c ← nextSpaced verbose
    require (c != '\\')
    pure (.named [c])

/-- The edge of a word that a name in braces stands for. -/
def wordEdge? (name : List Char) : Option WordEdge :=
  match String.ofList name with
  | "start" => some .start
  | "end" => some .stop
  | "start-half" => some .startHalf
  | "end-half" => some .stopHalf
  | _ => none

/-- Whether a character may stand in the name of an edge. -/
def isEdgeNameChar (c : Char) : Bool :=
  c.isAlpha || c == '-'

/-- Read which edge of a word is meant, behind the letter that announces one.  A brace
belongs to it only if a name follows; otherwise it starts a repetition. -/
def wordEdge (verbose : Bool) : Reader WordEdge := do
  let s ← lookAhead
  match s with
  | '\x7b' :: behind =>
    let inner := if verbose then dropSpace false behind else behind
    match inner with
    | [] => fail
    | c :: _ =>
      if isEdgeNameChar c then
        let _ ← nextSpaced verbose
        let name ← takeWhileSkipping isEdgeNameChar (skipSpace verbose)
        let closed ← skipChar '\x7d'
        require closed
        Reader.ofOption (wordEdge? name)
      else
        pure .boundary
  | _ => pure .boundary

/-- Whether a character stands for itself behind a backslash: all of ASCII but letters,
digits and angle brackets. -/
def isEscapable (c : Char) : Bool :=
  c.toNat < 128 && !c.isAlphanum && c != '<' && c != '>'

/-- A part that is a single character. -/
def Node.char (c : Char) : Node :=
  .literal ⟨c, false⟩

/-- Read an escape behind its backslash. -/
def escape (verbose : Bool) : Reader Node := do
  let c ← next
  if isEscapable c then
    pure (.char c)
  else
    match c with
    | 'x' => Node.literal <$> codePoint verbose 2
    | 'u' => Node.literal <$> codePoint verbose 4
    | 'U' => Node.literal <$> codePoint verbose 8
    | 'p' => Node.property false <$> propertyQuery verbose
    | 'P' => Node.property true <$> propertyQuery verbose
    | 'd' => pure (.short false .digit)
    | 'D' => pure (.short true .digit)
    | 's' => pure (.short false .space)
    | 'S' => pure (.short true .space)
    | 'w' => pure (.short false .word)
    | 'W' => pure (.short true .word)
    | 'a' => pure (.char '\x07')
    | 'f' => pure (.char '\x0c')
    | 't' => pure (.char '\t')
    | 'n' => pure (.char '\n')
    | 'r' => pure (.char '\r')
    | 'v' => pure (.char '\x0b')
    | 'A' => pure (.edge .textStart)
    | 'z' => pure (.edge .textEnd)
    | 'b' => (fun edge => Node.edge (.word edge)) <$> wordEdge verbose
    | 'B' => pure (.edge (.word .noBoundary))
    | '<' => pure (.edge (.word .start))
    | '>' => pure (.edge (.word .stop))
    | _ => fail

/-! ## Heads of groups -/

/-- Whether a character may stand in the name of a group. -/
def isGroupNameChar (c : Char) : Bool :=
  c == '_' || c == '.' || c == '[' || c == ']' || Unicode.isAlphanumeric c

def isGroupName : List Char → Bool
  | [] => false
  | first :: rest => (first == '_' || Unicode.isAlphabetic first) && rest.all isGroupNameChar

/-- Read the name of a group and the angle bracket behind it. -/
def groupName : Reader (List Char) := do
  let name ← takeWhile (· != '>')
  let closed ← skipChar '>'
  require (closed && isGroupName name)
  pure name

def Flag.ofLetter? : Char → Option Flag
  | 'i' => some .ignoreCase
  | 'm' => some .multiLine
  | 's' => some .dotMatchesLineBreak
  | 'U' => some .preferShort
  | 'u' => some .unicode
  | 'R' => some .carriageReturns
  | 'x' => some .verbose
  | _ => none

/-- The progress in reading flags: those read so far, the last one first, whether a minus
sign has been read, and whether it is the last thing read. -/
structure FlagProgress where
  changes : FlagChanges
  negated : Bool
  dangling : Bool

/-- Read one character of the flags.  The answer has the flags with the character that
ends them. -/
def flagStep (p : FlagProgress) (c : Char) : Reader (FlagProgress ⊕ (FlagChanges × Char)) := do
  if c == ':' || c == ')' then
    require (!p.dangling)
    pure (.inr (p.changes.reverse, c))
  else if c == '-' then
    require (!p.negated)
    pure (.inl { p with negated := true, dangling := true })
  else
    let flag ← Reader.ofOption (Flag.ofLetter? c)
    require (!p.changes.any fun change => change.1 == flag)
    pure (.inl { p with changes := (flag, !p.negated) :: p.changes, dangling := false })

/-- Read flags with the colon or the parenthesis behind them. -/
def flagChanges : Reader (FlagChanges × Char) :=
  Reader.loop flagStep (fun _ => none) ⟨[], false, false⟩

/-- What the text behind an opening parenthesis starts. -/
inductive GroupHead
  | plain
  | named (name : List Char)
  | withFlags (changes : FlagChanges)
  | flagsOnly (changes : FlagChanges)

/-- Whether the text behind an opening parenthesis asks for what is in front of or behind a
place, which patterns cannot. -/
def isLookAround : List Char → Bool
  | '?' :: '=' :: _ | '?' :: '!' :: _ | '?' :: '<' :: '=' :: _ | '?' :: '<' :: '!' :: _ => true
  | _ => false

/-- Read the head of a group behind its opening parenthesis. -/
def groupHead (verbose : Bool) : Reader GroupHead := do
  skipSpace verbose
  let s ← lookAhead
  require (!isLookAround s)
  match s with
  | '?' :: 'P' :: '<' :: _ =>
    Reader.expect ['?', 'P', '<']
    GroupHead.named <$> groupName
  | '?' :: '<' :: _ =>
    Reader.expect ['?', '<']
    GroupHead.named <$> groupName
  | '?' :: _ =>
    Reader.expect ['?']
    let (changes, final) ← flagChanges
    if final == ':' then
      pure (.withFlags changes)
    else
      require (!changes.isEmpty)
      pure (.flagsOnly changes)
  | _ => pure .plain

end WindowPlacement.TitlePattern
