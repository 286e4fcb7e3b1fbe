import WindowPlacement.Decimal.Reading
import WindowPlacement.Expression.Basic
import WindowPlacement.Expression.Token
import WindowPlacement.Text.Quoted

/-!
# Reading expressions

An expression is a word that names a measure, a word that starts with a digit and is
a numeral, or a call: an opening parenthesis, a word that names an operator, any number
of expressions and a closing parenthesis.

The reader goes through the tokens once, from left to right, and keeps the calls that
are still open.  It stops at the first token that no expression could continue with, so
a failure always points at the leftmost problem.
-/

namespace WindowPlacement

/-- Why a text is no expression. -/
inductive ReadError
  | unexpectedEnd
  | unknownOperator (word : String)
  | unknownMeasure (word : String)
  | badNumeral (word : String)
  | unexpectedClosing
  | trailingText (rest : String)
  deriving DecidableEq, Repr

def ReadError.message : ReadError → String
  | .unexpectedEnd => "reached end of expression unexpectedly"
  | .unknownOperator word => "unrecognized function: " ++ word
  | .unknownMeasure word => "bad atom: " ++ word
  | .badNumeral word => "bad number " ++ Text.quoted word ++ ": invalid float literal"
  | .unexpectedClosing => "unexpected character ')'"
  | .trailingText rest => "trailing junk after arithmetic expression: " ++ Text.quoted rest

namespace Expression

/-- A call whose closing parenthesis has not been read, with the arguments read so far,
the last one first. -/
structure OpenCall where
  operator : Operator
  arguments : List Expression

def OpenCall.push (c : OpenCall) (argument : Expression) : OpenCall :=
  { c with arguments := argument :: c.arguments }

def OpenCall.close (c : OpenCall) : Expression :=
  .call c.operator c.arguments.reverse

/-- The expression that a word stands for where an expression is expected.  A first
character that is a digit makes it a number, anything else a measure. -/
def ofWord (word : List Char) : Except ReadError Expression :=
  if word.head?.any Char.isDigit then
    match Decimal.value? word with
    | some value => .ok (.constant value)
    | none => .error (.badNumeral (String.ofList word))
  else
    match Measure.ofSymbol? (String.ofList word) with
    | some m => .ok (.measure m)
    | none => .error (.unknownMeasure (String.ofList word))

/-- Read the rest of an expression inside some open calls, the innermost one first.
The answer is the outermost expression with the text behind it. -/
def readLexemes : List OpenCall → List Lexeme → Except ReadError (Expression × List Char)
  | _, [] => .error .unexpectedEnd
  | calls, ⟨.opening, _⟩ :: ⟨.word name, _⟩ :: rest =>
    match Operator.ofSymbol? (String.ofList name) with
    | some operator => readLexemes (⟨operator, []⟩ :: calls) rest
    | none => .error (.unknownOperator (String.ofList name))
  | _, ⟨.opening, _⟩ :: _ => .error .unexpectedEnd
  | [], ⟨.closing, _⟩ :: _ => .error .unexpectedClosing
  | [inner], ⟨.closing, behind⟩ :: _ => .ok (inner.close, behind)
  | inner :: outer :: calls, ⟨.closing, _⟩ :: rest =>
    readLexemes (outer.push inner.close :: calls) rest
  | calls, ⟨.word spelling, behind⟩ :: rest =>
    match ofWord spelling, calls with
    | .error failure, _ => .error failure
    | .ok value, [] => .ok (value, behind)
    | .ok value, inner :: outer => readLexemes (inner.push value :: outer) rest

/-- Read one expression off the front of a text.  The answer has the text behind the
expression, without the blanks at its ends. -/
def readFirst (text : List Char) : Except ReadError (Expression × List Char) :=
  readLexemes [] (lexemes (Text.trim text))

/-- Read a text that is one expression as a whole. -/
def read (text : List Char) : Except ReadError Expression :=
  match readFirst text with
  | .error failure => .error failure
  | .ok (e, []) => .ok e
  | .ok (_, rest) => .error (.trailingText (String.ofList rest))

/-- Read a string that is one expression as a whole. -/
def ofString (text : String) : Except ReadError Expression :=
  read text.toList

end Expression

end WindowPlacement
