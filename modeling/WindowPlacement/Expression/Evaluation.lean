import WindowPlacement.Expression.Basic

/-!
# Evaluating expressions

An expression is evaluated against the geometry of a window on its head.  The
arguments of a call are evaluated from left to right before their number is looked
at, and the first failure ends the evaluation.  Arithmetic is that of binary64
numbers, so a division by zero gives an infinity or no number at all, never a failure.
-/

namespace WindowPlacement

/-- The geometry that an expression sees: the window's frame, with its corner
relative to the usable area of its head, and the size of that area. -/
structure Surroundings where
  x : Int
  y : Int
  width : Int
  height : Int
  screenWidth : Int
  screenHeight : Int
  deriving DecidableEq, Repr

def Surroundings.value (s : Surroundings) : Measure → Int
  | .x => s.x
  | .y => s.y
  | .width => s.width
  | .height => s.height
  | .screenWidth => s.screenWidth
  | .screenHeight => s.screenHeight

/-- A call whose number of arguments its operator does not take. -/
structure ArityMismatch where
  operator : Operator
  given : Nat
  deriving DecidableEq, Repr

def ArityMismatch.message (failure : ArityMismatch) : String :=
  failure.operator.symbol ++ " expects " ++ failure.operator.arity.text ++
    " arguments, got " ++ toString failure.given

namespace Operator

/-- The least of some numbers: the first one that no later one is below.  A value
that is no number is never below another, nor is any other below it. -/
def least (first : Float) (rest : List Float) : Float :=
  rest.foldl (fun best value => if value < best then value else best) first

/-- The greatest of some numbers: the first one that no later one exceeds. -/
def greatest (first : Float) (rest : List Float) : Float :=
  rest.foldl (fun best value => if best < value then value else best) first

/-- The value of an operator on its arguments. -/
def apply : Operator → List Float → Except ArityMismatch Float
  | .add, [a, b] => .ok (a + b)
  | .sub, [a, b] => .ok (a - b)
  | .mul, [a, b] => .ok (a * b)
  | .div, [a, b] => .ok (a / b)
  | .min, a :: b :: rest => .ok (least a (b :: rest))
  | .max, a :: b :: rest => .ok (greatest a (b :: rest))
  | operator, values => .error ⟨operator, values.length⟩

end Operator

namespace Expression

mutual

def eval (s : Surroundings) : Expression → Except ArityMismatch Float
  | .constant value => .ok value
  | .measure m => .ok (Float.ofInt (s.value m))
  | .call operator arguments =>
    match evalArguments s arguments with
    | .ok values => operator.apply values
    | .error failure => .error failure

/-- The values of the arguments of a call, or the first failure among them. -/
def evalArguments (s : Surroundings) : List Expression → Except ArityMismatch (List Float)
  | [] => .ok []
  | argument :: rest =>
    match argument.eval s with
    | .error failure => .error failure
    | .ok value =>
      match evalArguments s rest with
      | .error failure => .error failure
      | .ok values => .ok (value :: values)

end

end Expression

end WindowPlacement
