/-!
# Reading decimal numerals

A numeral is a whole part, a fraction and an exponent: digits, then optionally a
point with digits, then optionally `e` or `E` with an optional sign and digits.
The whole part and the fraction hold at least one digit between them.  Its value is
the binary64 number nearest to the decimal one, ties going to the even significand,
so a numeral beyond the largest finite number reads as infinity.

A sign in front is no part of a numeral.
-/

namespace WindowPlacement.Decimal

def digitValue (c : Char) : Nat :=
  c.toNat - '0'.toNat

/-- The number that a list of decimal digits spells. -/
def naturalOfDigits (digits : List Char) : Nat :=
  digits.foldl (fun value digit => 10 * value + digitValue digit) 0

/-- The magnitude of a written exponent.  It stops growing once it is far beyond
what any number of digits in front could balance. -/
def exponentOfDigits (digits : List Char) : Nat :=
  digits.foldl
    (fun value digit => if value < 65536 then 10 * value + digitValue digit else value) 0

/-- The written exponent of a numeral, from the text behind its digits.  The empty
text stands for the exponent zero; anything else has to be a complete exponent. -/
def exponent? : List Char → Option Int
  | [] => some 0
  | mark :: rest =>
    if mark == 'e' || mark == 'E' then
      let (negative, digits) : Bool × List Char :=
        match rest with
        | '-' :: digits => (true, digits)
        | '+' :: digits => (false, digits)
        | digits => (false, digits)
      if digits.isEmpty || !digits.all Char.isDigit then
        none
      else
        let magnitude : Int := exponentOfDigits digits
        some (if negative then -magnitude else magnitude)
    else
      none

/-- The binary64 number nearest to `digits · 10 ^ exponent`. -/
def nearest (digits : Nat) (exponent : Int) : Float :=
  Float.ofModel (Float.Model.ofScientific digits exponent)

/-- The value of a numeral, or `none` for any other text. -/
def value? (numeral : List Char) : Option Float :=
  let whole := numeral.takeWhile Char.isDigit
  let (fraction, rest) : List Char × List Char :=
    match numeral.dropWhile Char.isDigit with
    | '.' :: rest => (rest.takeWhile Char.isDigit, rest.dropWhile Char.isDigit)
    | rest => ([], rest)
  if whole.isEmpty && fraction.isEmpty then
    none
  else
    (exponent? rest).map fun exponent =>
      nearest (naturalOfDigits (whole ++ fraction)) (exponent - fraction.length)

end WindowPlacement.Decimal
