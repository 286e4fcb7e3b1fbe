/-!
# JSON values

A JSON text as a tree.  Numbers keep their spelling, and the members of an object their
order and all their repetitions, since it is for the reader of a value to say what these
mean.  A string may be written so that it has half of a pair of surrogates; then it has no
content.
-/

namespace WindowPlacement

/-- A JSON value. -/
inductive JsonValue
  | null
  | boolean (value : Bool)
  | number (spelling : String)
  | string (content : Option String)
  | array (items : List JsonValue)
  | object (members : List (Option String × JsonValue))
  deriving Repr, Inhabited

end WindowPlacement
