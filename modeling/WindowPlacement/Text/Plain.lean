/-!
# Plain text

A message in a log is plain text.  Its further lines are indented, and what would control a
terminal is left out: control characters other than blanks, and the sequences that start with
an escape character.

A sequence is over with a character that depends on what it is: a command of two or three
characters, a control sequence with parameters, or a string, which goes on to its terminator.
Blanks that stand within a command or a control sequence are kept, and so is the text from
such a blank up to the next control character, behind which the sequence goes on.
-/

namespace WindowPlacement.Text

/-- What a terminal takes the next character for: text, a part of a command or of a control
sequence, a part of the head of a device string, a part of a string, or a part of a command
to the operating system. -/
inductive TerminalState
  | text
  | command
  | longCommand
  | control
  | device
  | deviceParameter
  | deviceIntermediate
  | string
  | system
  deriving DecidableEq, Repr

/-- Whether a character is a blank that a log keeps. -/
def isKeptBlank (c : Char) : Bool :=
  c == ' ' || c == '\t' || c == '\n' || c == '\x0c' || c == '\r'

/-- Whether a character is text to a terminal that expects text. -/
def isPlain (c : Char) : Bool :=
  isKeptBlank c || (0x20 ≤ c.toNat && c.toNat != 0x7F)

/-- Whether the encoding of a character has the byte that ends strings. -/
def endsString (c : Char) : Bool :=
  c.toNat ≥ 0x80 && (String.utf8EncodeChar c).contains 0x9C

namespace TerminalState

def shows (s : TerminalState) (c : Char) : Bool :=
  match s with
  | .text => isPlain c
  | .command | .longCommand | .control => isKeptBlank c && c != ' '
  | _ => false

/-- What becomes of a command with its second character. -/
def afterEscape (c : Char) : TerminalState :=
  match c with
  | '[' => .control
  | ']' => .system
  | 'P' => .device
  | 'X' | '^' | '_' => .string
  | c =>
    if c.toNat < 0x20 || 0x7F ≤ c.toNat then
      .command
    else if c.toNat < 0x30 then
      .longCommand
    else
      .text

/-- What becomes of the head of a device string with a character, from what a parameter makes
of it. -/
def inDevice (s parameter : TerminalState) (c : Char) : TerminalState :=
  if c.toNat < 0x20 || 0x7F ≤ c.toNat then
    s
  else if c.toNat < 0x30 then
    .deviceIntermediate
  else if c.toNat < 0x40 then
    parameter
  else
    .string

/-- What the character behind a given one is taken for. -/
def next (s : TerminalState) (c : Char) : TerminalState :=
  if c == '\x1b' then
    .command
  else if c == '\x18' || c == '\x1a' then
    .text
  else
    match s with
    | .text => .text
    | .command => afterEscape c
    | .longCommand => if 0x30 ≤ c.toNat && c.toNat < 0x7F then .text else .longCommand
    | .control => if 0x40 ≤ c.toNat && c.toNat < 0x7F then .text else .control
    | .device => inDevice .device .deviceParameter c
    | .deviceParameter =>
      inDevice .deviceParameter (if c.toNat < 0x3C then .deviceParameter else .string) c
    | .deviceIntermediate => inDevice .deviceIntermediate .string c
    | .string => if endsString c then .text else .string
    | .system => if c == '\x07' then .text else .system

end TerminalState

/-- What is shown of a text, from whether text has just been shown and what the terminal would
take the next character for. -/
def plainChars (showing : Bool) (s : TerminalState) : List Char → List Char
  | [] => []
  | c :: rest =>
    if showing && isPlain c then
      c :: plainChars true (if c.toNat < 0x80 then s else .text) rest
    else if s.shows c then
      c :: plainChars true (s.next c) rest
    else
      plainChars false (s.next c) rest

/-- A text with its further lines indented. -/
def indentedChars (s : List Char) : List Char :=
  s.flatMap fun c => if c == '\n' then ['\n', ' ', ' ', ' ', ' '] else [c]

def plain (text : String) : String :=
  String.ofList (plainChars true .text (indentedChars text.toList))

end WindowPlacement.Text
