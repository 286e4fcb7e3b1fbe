/-!
# Placement expressions

A placement expression is a number, a measure of the window or its head, or a call
of one of six operators.  The vocabulary is closed, so operators and measures are
enumerations, and their symbols are looked up in both directions by plain functions
that undo each other.

Whether a call has as many arguments as its operator takes is not part of being an
expression: it shows when the expression is evaluated.
-/

namespace WindowPlacement

/-- The operators an expression may call. -/
inductive Operator
  | add
  | sub
  | mul
  | div
  | min
  | max
  deriving DecidableEq, Repr

/-- How many arguments an operator takes. -/
inductive Arity
  | exactly (count : Nat)
  | atLeast (count : Nat)
  deriving DecidableEq, Repr

/-- Whether a number of arguments is one the arity allows. -/
def Arity.accepts : Arity → Nat → Bool
  | .exactly count, given => given == count
  | .atLeast count, given => count ≤ given

def Arity.text : Arity → String
  | .exactly count => toString count
  | .atLeast count => "at least " ++ toString count

namespace Operator

/-- All operators, in the order of their declaration. -/
def all : List Operator :=
  [.add, .sub, .mul, .div, .min, .max]

/-- How an operator is written. -/
def symbol : Operator → String
  | .add => "+"
  | .sub => "-"
  | .mul => "*"
  | .div => "/"
  | .min => "min"
  | .max => "max"

def ofSymbol? (symbol : String) : Option Operator :=
  all.find? fun operator => operator.symbol == symbol

/-- The arithmetic operators take two arguments; a least or a greatest value is
taken of two or more. -/
def arity : Operator → Arity
  | .add | .sub | .mul | .div => .exactly 2
  | .min | .max => .atLeast 2

end Operator

/-- The measures an expression may refer to: corner and size of the window's frame,
and the size of the head it is on. -/
inductive Measure
  | x
  | y
  | width
  | height
  | screenWidth
  | screenHeight
  deriving DecidableEq, Repr

namespace Measure

/-- All measures, in the order of their declaration. -/
def all : List Measure :=
  [.x, .y, .width, .height, .screenWidth, .screenHeight]

/-- How a measure is written. -/
def symbol : Measure → String
  | .x => "x"
  | .y => "y"
  | .width => "w"
  | .height => "h"
  | .screenWidth => "sw"
  | .screenHeight => "sh"

def ofSymbol? (symbol : String) : Option Measure :=
  all.find? fun measure => measure.symbol == symbol

end Measure

/-- A placement expression. -/
inductive Expression
  | call (operator : Operator) (arguments : List Expression)
  | measure (m : Measure)
  | constant (value : Float)
  deriving BEq, Repr, Inhabited

end WindowPlacement
