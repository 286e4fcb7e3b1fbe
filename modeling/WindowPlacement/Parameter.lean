import WindowPlacement.Text.Blank

/-!
# Parameters

Every argument of a command is a parameter of the form `name=value`.  The name is what
stands before the first equals sign, without blanks at its ends; the value is everything
behind that sign, as written.
-/

namespace WindowPlacement

/-- A parameter of a command. -/
structure Parameter where
  name : String
  value : String
  deriving DecidableEq, Repr

/-- The parameter that an argument spells, or `none` if it has no equals sign. -/
def Parameter.ofString? (argument : String) : Option Parameter :=
  match argument.toList.span fun c => c != '=' with
  | (name, _ :: value) => some ⟨String.ofList (Text.trim name), String.ofList value⟩
  | (_, []) => none

end WindowPlacement
