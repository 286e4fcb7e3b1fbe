import WindowPlacement.Json.Value
import WindowPlacement.Text.Reader

/-!
# Reading JSON

A text is read in one pass, with the arrays and objects that are still open in a list.  The
depth of nesting is not limited.
-/

namespace WindowPlacement.JsonValue

open Text (Reader)
open Text.Reader (require fail next skipChar takeWhile)

/-- Whether a character may stand between the signs of a JSON text. -/
def isSpace (c : Char) : Bool :=
  c == ' ' || c == '\t' || c == '\n' || c == '\r'

/-! ## Strings -/

/-- The progress in reading a string: its characters so far, the last one first, the first
half of a pair of surrogates if that was the last thing read, and whether some half had no
other. -/
structure StringProgress where
  characters : List Char
  half : Option Nat
  broken : Bool

namespace StringProgress

/-- Nothing has been read. -/
def empty : StringProgress :=
  ⟨[], none, false⟩

def push (p : StringProgress) (c : Char) : StringProgress :=
  ⟨c :: p.characters, none, p.broken || p.half.isSome⟩

/-- Add a number of 16 bits, which may be one half of a pair of surrogates. -/
def pushUnit (p : StringProgress) (unit : Nat) : StringProgress :=
  if 0xD800 ≤ unit ∧ unit < 0xDC00 then
    ⟨p.characters, some unit, p.broken || p.half.isSome⟩
  else if 0xDC00 ≤ unit ∧ unit < 0xE000 then
    match p.half with
    | some half =>
      let c := Char.ofNat (0x10000 + (half - 0xD800) * 0x400 + (unit - 0xDC00))
      ⟨c :: p.characters, none, p.broken⟩
    | none => { p with broken := true }
  else
    p.push (Char.ofNat unit)

/-- The string that has been read, if all halves had their others. -/
def finish (p : StringProgress) : Option String :=
  if p.broken || p.half.isSome then none else some (String.ofList p.characters.reverse)

end StringProgress

def hexDigit? (c : Char) : Option Nat :=
  if c.isDigit then
    some (c.toNat - '0'.toNat)
  else if 'a' ≤ c ∧ c ≤ 'f' then
    some (c.toNat - 'a'.toNat + 10)
  else if 'A' ≤ c ∧ c ≤ 'F' then
    some (c.toNat - 'A'.toNat + 10)
  else
    none

def hexDigit : Reader Nat := do
  let c ← next
  Reader.ofOption (hexDigit? c)

/-- The character that an escape by a letter or a sign stands for. -/
def escaped? : Char → Option Char
  | '"' => some '"'
  | '\\' => some '\\'
  | '/' => some '/'
  | 'b' => some '\x08'
  | 'f' => some '\x0c'
  | 'n' => some '\n'
  | 'r' => some '\r'
  | 't' => some '\t'
  | _ => none

def stringStep (p : StringProgress) (c : Char) :
    Reader (StringProgress ⊕ Option String) := do
  if c == '"' then
    pure (.inr p.finish)
  else if c == '\\' then
    let d ← next
    if d == 'u' then
      let digits ← Reader.replicate hexDigit 4
      pure (.inl (p.pushUnit (digits.foldl (fun value digit => 16 * value + digit) 0)))
    else
      let e ← Reader.ofOption (escaped? d)
      pure (.inl (p.push e))
  else
    require (0x20 ≤ c.toNat)
    pure (.inl (p.push c))

/-- Read a string behind its opening quote. -/
def stringContent : Reader (Option String) :=
  Reader.loop stringStep (fun _ => none) .empty

/-! ## Numbers -/

def digits : Reader (List Char) := do
  let digits ← takeWhile Char.isDigit
  require (!digits.isEmpty)
  pure digits

/-- Read the part of a number that a mark starts, if the mark is there. -/
def markedPart (marks : List Char) (part : Reader (List Char)) : Reader (List Char) := do
  let c ← Reader.peek
  match c with
  | some c =>
    if marks.contains c then do
      let _ ← next
      let rest ← part
      pure (c :: rest)
    else
      pure []
  | none => pure []

/-- Read an exponent behind its mark. -/
def exponentPart : Reader (List Char) := do
  let c ← Reader.peek
  match c with
  | some '-' | some '+' =>
    let sign ← next
    let rest ← digits
    pure (sign :: rest)
  | _ => digits

/-- Read a number from its first digit.  A zero in front is a number of its own. -/
def magnitude (c : Char) : Reader (List Char) := do
  require c.isDigit
  let whole ← if c == '0' then pure [] else takeWhile Char.isDigit
  let fraction ← markedPart ['.'] digits
  let exponent ← markedPart ['e', 'E'] exponentPart
  pure (c :: whole ++ fraction ++ exponent)

/-- Read a number from its first character. -/
def numeral (c : Char) : Reader JsonValue := do
  if c == '-' then
    let d ← next
    let rest ← magnitude d
    pure (.number (String.ofList ('-' :: rest)))
  else
    let whole ← magnitude c
    pure (.number (String.ofList whole))

/-! ## Values -/

/-- An array or an object that is being read, with its parts so far, the last one first. -/
inductive Frame
  | array (items : List JsonValue)
  | object (members : List (Option String × JsonValue)) (key : Option String)

/-- What may come next. -/
inductive Expecting
  | value
  | itemOrClose
  | keyOrClose
  | key
  | colon
  | behindPart
  | nothing (value : JsonValue)

/-- The progress in reading a value: the open arrays and objects, the innermost one first,
and what may come next. -/
structure Progress where
  frames : List Frame
  expecting : Expecting

namespace Progress

/-- Nothing has been read. -/
def start : Progress :=
  ⟨[], .value⟩

/-- Put a value where one was expected. -/
def deliver (frames : List Frame) (value : JsonValue) : Progress :=
  match frames with
  | [] => ⟨[], .nothing value⟩
  | .array items :: frames => ⟨.array (value :: items) :: frames, .behindPart⟩
  | .object members key :: frames =>
    ⟨.object ((key, value) :: members) none :: frames, .behindPart⟩

/-- End the innermost array or object with its closing sign. -/
def close (frames : List Frame) (sign : Char) : Option Progress :=
  match frames, sign with
  | .array items :: frames, ']' => some (deliver frames (.array items.reverse))
  | .object members _ :: frames, '\x7d' => some (deliver frames (.object members.reverse))
  | _, _ => none

/-- Start the next part of the innermost array or object behind a comma. -/
def separate (frames : List Frame) : Option Progress :=
  match frames with
  | .array _ :: _ => some ⟨frames, .value⟩
  | .object _ _ :: _ => some ⟨frames, .key⟩
  | [] => none

def addKey (frames : List Frame) (key : Option String) : Option Progress :=
  match frames with
  | .object members _ :: frames => some ⟨.object members key :: frames, .colon⟩
  | _ => none

/-- The value, if nothing more is expected. -/
def finish (p : Progress) : Option JsonValue :=
  match p.expecting with
  | .nothing value => some value
  | _ => none

end Progress

/-- Read a value, or the beginning of an array or object, from its first character. -/
def valueStep (frames : List Frame) (c : Char) : Reader Progress := do
  match c with
  | '[' => pure ⟨.array [] :: frames, .itemOrClose⟩
  | '\x7b' => pure ⟨.object [] none :: frames, .keyOrClose⟩
  | '"' =>
    let content ← stringContent
    pure (Progress.deliver frames (.string content))
  | 't' =>
    Reader.expect ['r', 'u', 'e']
    pure (Progress.deliver frames (.boolean true))
  | 'f' =>
    Reader.expect ['a', 'l', 's', 'e']
    pure (Progress.deliver frames (.boolean false))
  | 'n' =>
    Reader.expect ['u', 'l', 'l']
    pure (Progress.deliver frames .null)
  | _ =>
    let value ← numeral c
    pure (Progress.deliver frames value)

/-- Read a key from its first character. -/
def keyStep (frames : List Frame) (c : Char) : Reader Progress := do
  require (c == '"')
  let key ← stringContent
  Reader.ofOption (Progress.addKey frames key)

/-- Read on in a JSON text from one of its characters. -/
def jsonStep (p : Progress) (c : Char) : Reader Progress := do
  if isSpace c then
    pure p
  else
    match p.expecting with
    | .value => valueStep p.frames c
    | .itemOrClose =>
      match Progress.close p.frames c with
      | some p => pure p
      | none => valueStep p.frames c
    | .keyOrClose =>
      match Progress.close p.frames c with
      | some p => pure p
      | none => keyStep p.frames c
    | .key => keyStep p.frames c
    | .colon =>
      require (c == ':')
      pure { p with expecting := .value }
    | .behindPart =>
      if c == ',' then
        Reader.ofOption (Progress.separate p.frames)
      else
        Reader.ofOption (Progress.close p.frames c)
    | .nothing _ => fail

/-- Read a JSON text up to its end. -/
def json : Reader JsonValue :=
  Reader.loop (fun p c => Sum.inl <$> jsonStep p c) Progress.finish .start

/-- The value that a text spells, if it is a JSON text. -/
def ofString? (text : String) : Option JsonValue :=
  Reader.readAll json text.toList

end WindowPlacement.JsonValue
