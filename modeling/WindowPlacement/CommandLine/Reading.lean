import WindowPlacement.Command.Invocation

/-!
# The command line

The command line is an option `--config` with a path, a subcommand, and the arguments of the
subcommand.  The option may stand before or behind the subcommand, once in each place; the
one behind counts.  Everything behind `--` is an argument, even if it starts with a hyphen.

Words are taken from left to right.  A request for help or for the version ends the reading
at once, and so does a word that cannot stand where it does.  The value of an option is only
looked at when the next option, argument or end comes.
-/

namespace WindowPlacement.CommandLine

/-- Why a command line is no invocation: it is misused, or asks for information only. -/
inductive Stop
  | misuse
  | information
  deriving DecidableEq, Repr

/-- A command line that was understood: the path of the configuration, if one is given, and
the command. -/
structure Request where
  config : Option String
  invocation : Invocation
  deriving DecidableEq, Repr

/-- What is known about the option `--config` in one of its places: the value that was
accepted, and, if the option has been read since, the value read behind it. -/
structure ConfigOption where
  accepted : Option String
  pending : Option (Option String)
  deriving DecidableEq, Repr

namespace ConfigOption

/-- The option has not been read. -/
def absent : ConfigOption :=
  ⟨none, none⟩

/-- Whether the option has been read and its value has not. -/
def awaitsValue (o : ConfigOption) : Bool :=
  o.pending == some none

/-- Accept a value.  It must not be empty, nor the second one. -/
def accept (o : ConfigOption) (value : String) : Except Stop ConfigOption :=
  if value = "" ∨ o.accepted.isSome then .error .misuse else .ok ⟨some value, none⟩

/-- Look at the value that was read last. -/
def settle (o : ConfigOption) : Except Stop ConfigOption :=
  match o.pending with
  | none => .ok o
  | some none => .error .misuse
  | some (some value) => o.accept value

/-- Read the option; its value follows as the next word. -/
def start (o : ConfigOption) : Except Stop ConfigOption :=
  o.settle.map fun o => { o with pending := some none }

/-- Read the option with its value in one word. -/
def attach (o : ConfigOption) (value : String) : Except Stop ConfigOption :=
  o.settle.bind fun o => o.accept value

end ConfigOption

/-- What a word of the command line looks like. -/
inductive Word
  | plain
  | separator
  | configOption
  | configWithValue (value : String)
  | help
  | version
  | unknownOption
  deriving DecidableEq, Repr

/-- The text behind a word that a text starts with. -/
def behind? (start : String) (text : String) : Option String :=
  let start := start.toList
  let text := text.toList
  if start.isPrefixOf text then some (String.ofList (text.drop start.length)) else none

/-- What a word looks like.  Of several short options in one word the first one counts, and a
hyphen alone is no option. -/
def Word.ofString (word : String) : Word :=
  if word = "--" then
    .separator
  else if word = "--config" then
    .configOption
  else if word = "--help" then
    .help
  else if word = "--version" then
    .version
  else
    match behind? "--config=" word with
    | some value => .configWithValue value
    | none =>
      match word.toList with
      | '-' :: '-' :: _ => .unknownOption
      | '-' :: 'h' :: _ => .help
      | '-' :: 'V' :: _ => .version
      | '-' :: _ :: _ => .unknownOption
      | _ => .plain

/-- The subcommands. -/
inductive Subcommand
  | moveResize
  | focus
  | maximize
  | toggle
  | switch
  deriving DecidableEq, Repr

namespace Subcommand

def name : Subcommand → String
  | .moveResize => "moveresize"
  | .focus => "focus"
  | .maximize => "maximize"
  | .toggle => "toggle"
  | .switch => "switch"

def all : List Subcommand :=
  [.moveResize, .focus, .maximize, .toggle, .switch]

def ofName? (name : String) : Option Subcommand :=
  all.find? fun subcommand => subcommand.name == name

/-- Whether a subcommand takes one argument more than a given number. -/
def hasRoom : Subcommand → Nat → Bool
  | .moveResize, _ => true
  | .maximize, _ => false
  | .focus, given | .toggle, given | .switch, given => given == 0

/-- The invocation of a subcommand with some arguments, if it takes that many. -/
def invocation? : Subcommand → List String → Option Invocation
  | .moveResize, parameters => some (.moveResize parameters)
  | .focus, [parameter] => some (.focus parameter)
  | .maximize, [] => some .maximize
  | .toggle, [state] => some (.toggle state)
  | .switch, [destination] => some (.switch destination)
  | _, _ => none

end Subcommand

/-- Take one word as an argument of a subcommand. -/
def addArgument (subcommand : Subcommand) (option : ConfigOption) (arguments : List String)
    (word : String) : Except Stop (ConfigOption × List String) :=
  match option.settle with
  | .error stop => .error stop
  | .ok option =>
    if subcommand.hasRoom arguments.length then
      .ok (option, arguments ++ [word])
    else
      .error .misuse

/-- Take all words as arguments of a subcommand. -/
def addArguments (subcommand : Subcommand) (option : ConfigOption) (arguments : List String) :
    List String → Except Stop (ConfigOption × List String)
  | [] => .ok (option, arguments)
  | word :: words =>
    match addArgument subcommand option arguments word with
    | .error stop => .error stop
    | .ok (option, arguments) => addArguments subcommand option arguments words

/-- Read the words behind a subcommand: the option `--config` and the arguments. -/
def readArguments (subcommand : Subcommand) (option : ConfigOption) (arguments : List String) :
    List String → Except Stop (ConfigOption × List String)
  | [] => .ok (option, arguments)
  | word :: words =>
    match Word.ofString word with
    | .plain =>
      if option.awaitsValue then
        readArguments subcommand { option with pending := some (some word) } arguments words
      else
        match addArgument subcommand option arguments word with
        | .error stop => .error stop
        | .ok (option, arguments) => readArguments subcommand option arguments words
    | .separator => addArguments subcommand option arguments words
    | .configOption =>
      match option.start with
      | .error stop => .error stop
      | .ok option => readArguments subcommand option arguments words
    | .configWithValue value =>
      match option.attach value with
      | .error stop => .error stop
      | .ok option => readArguments subcommand option arguments words
    | .help =>
      match option.settle with
      | .error stop => .error stop
      | .ok _ => .error .information
    | .version | .unknownOption => .error .misuse

/-- Read a subcommand's part of the command line: the value of its option `--config`, if
given, and the invocation. -/
def readSubcommand (subcommand : Subcommand) (words : List String) :
    Except Stop (Option String × Invocation) :=
  match readArguments subcommand .absent [] words with
  | .error stop => .error stop
  | .ok (option, arguments) =>
    match option.settle, subcommand.invocation? arguments with
    | .ok option, some invocation => .ok (option.accepted, invocation)
    | _, _ => .error .misuse

/-- What the subcommand `help` comes to: at most one known name may follow it. -/
def readHelp : List String → Stop
  | [] => .information
  | [name] =>
    if name = "help" ∨ (Subcommand.ofName? name).isSome then .information else .misuse
  | _ => .misuse

/-- Read a command line from the words that are left, with what is known about the option
`--config` before the subcommand. -/
def readWords (option : ConfigOption) : List String → Except Stop Request
  | [] => .error .misuse
  | word :: words =>
    match Word.ofString word with
    | .plain =>
      if option.awaitsValue then
        readWords { option with pending := some (some word) } words
      else if word = "help" then
        .error (readHelp words)
      else
        match Subcommand.ofName? word with
        | none => .error .misuse
        | some subcommand =>
          match readSubcommand subcommand words with
          | .error stop => .error stop
          | .ok (inner, invocation) =>
            match option.settle with
            | .error stop => .error stop
            | .ok option => .ok ⟨inner.or option.accepted, invocation⟩
    | .configOption =>
      match option.start with
      | .error stop => .error stop
      | .ok option => readWords option words
    | .configWithValue value =>
      match option.attach value with
      | .error stop => .error stop
      | .ok option => readWords option words
    | .help | .version =>
      match option.settle with
      | .error stop => .error stop
      | .ok _ => .error .information
    | .separator | .unknownOption => .error .misuse

def read (words : List String) : Except Stop Request :=
  readWords .absent words

end WindowPlacement.CommandLine
