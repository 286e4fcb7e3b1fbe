import WindowPlacement.Decimal.Positional
import WindowPlacement.Expression.Basic

/-!
# Writing expressions

An expression is written in one way only: a call as a parenthesis with the operator
and the arguments separated by single spaces, a measure as its symbol, and a number
as its shortest decimal.  Infinity has no decimal of its own and is written as a
numeral too large for any finite number.
-/

namespace WindowPlacement.Expression

def infinityNumeral : List Char :=
  ['1', 'e', '9', '9', '9']

/-- The numeral that stands for a number in an expression. -/
def numeral (value : Float) : List Char :=
  if value.isInf then infinityNumeral else Decimal.text value

mutual

def render : Expression → List Char
  | .call operator arguments =>
    '(' :: operator.symbol.toList ++ renderArguments arguments
  | .measure m => m.symbol.toList
  | .constant value => numeral value

/-- The characters of the arguments of a call up to its closing parenthesis. -/
def renderArguments : List Expression → List Char
  | [] => [')']
  | argument :: rest => ' ' :: render argument ++ renderArguments rest

end

def text (e : Expression) : String :=
  String.ofList e.render

end WindowPlacement.Expression
