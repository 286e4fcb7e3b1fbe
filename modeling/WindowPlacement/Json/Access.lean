import WindowPlacement.Decimal.Reading
import WindowPlacement.Json.Value

/-!
# Looking into JSON values

Each of these functions expects a value of one kind and gives nothing for the others.  There
are two ways to look into an object: `valuesOf` and `field?` notice that a name is repeated,
while `get?` takes its first value.
-/

namespace WindowPlacement.JsonValue

def content? : JsonValue → Option String
  | .string content => content
  | _ => none

def contentOrNull? : JsonValue → Option (Option String)
  | .null => some none
  | .string (some content) => some (some content)
  | _ => none

def boolean? : JsonValue → Option Bool
  | .boolean value => some value
  | _ => none

def naturalOfSpelling? (digits : List Char) : Option Nat :=
  if digits.isEmpty || !digits.all Char.isDigit then
    none
  else
    some (Decimal.naturalOfDigits digits)

def natural? : JsonValue → Option Nat
  | .number spelling => naturalOfSpelling? spelling.toList
  | _ => none

def integer? : JsonValue → Option Int
  | .number spelling =>
    match spelling.toList with
    | '-' :: digits => (naturalOfSpelling? digits).map fun n => -(n : Int)
    | digits => (naturalOfSpelling? digits).map Int.ofNat
  | _ => none

/-- The items of an array, each read in the same way. -/
def items? {α : Type} (decode : JsonValue → Option α) : JsonValue → Option (List α)
  | .array items => items.mapM decode
  | _ => none

/-- The members of an object, each read in the same way. -/
def members? {α : Type} (decode : String → JsonValue → Option α) :
    JsonValue → Option (List α)
  | .object members =>
    members.mapM fun member => member.1.bind fun name => decode name member.2
  | _ => none

/-- The first value that an object gives to a name. -/
def get? (value : JsonValue) (name : String) : Option JsonValue :=
  match value with
  | .object members => members.lookup (some name)
  | _ => none

def namesAreValid (members : List (Option String × JsonValue)) : Bool :=
  members.all fun member => member.1.isSome

/-- The values that an object gives to a name. -/
def valuesOf (members : List (Option String × JsonValue)) (name : String) : List JsonValue :=
  (members.filter fun member => member.1 == some name).map Prod.snd

/-- The field of a record given as an object: its default if the object leaves it out, and
nothing if the object has it twice or its value is no good. -/
def field? {α : Type} (members : List (Option String × JsonValue)) (name : String)
    (default : α) (decode : JsonValue → Option α) : Option α :=
  match valuesOf members name with
  | [] => some default
  | [value] => decode value
  | _ => none

end WindowPlacement.JsonValue
