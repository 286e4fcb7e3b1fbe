import WindowPlacement.Decimal.Shortest

/-!
# Positional text of numbers

A number is written with its shortest digits that read back, always positionally:
there is no exponent, a whole number has no point, and a fraction has a digit in
front of the point.  The negative numbers, negative zero among them, carry a minus
sign; the values that are no numbers are `inf`, `-inf` and `NaN`.
-/

namespace WindowPlacement.Decimal

/-- The characters of `digits · 10 ^ exponent`, with zeros up to the point or behind
it where the digits do not reach. -/
def Digits.positional (d : Digits) : List Char :=
  let figures := Nat.toDigits 10 d.digits
  if 0 ≤ d.exponent then
    figures ++ List.replicate d.exponent.toNat '0'
  else
    let places := (-d.exponent).toNat
    let padded := List.replicate (places + 1 - figures.length) '0' ++ figures
    let whole := padded.length - places
    padded.take whole ++ '.' :: padded.drop whole

/-- The lower 63 bits of positive infinity. -/
def infinityBits : Nat :=
  2047 * Nat.pow 2 52

/-- The characters of a number without its sign. -/
def magnitudeText (bits : Nat) : List Char :=
  if bits = 0 then
    ['0']
  else if bits < infinityBits then
    (Binary.ofMagnitudeBits bits).shortest.positional
  else if bits = infinityBits then
    ['i', 'n', 'f']
  else
    ['N', 'a', 'N']

/-- The text of a number.  A value that is no number has no sign. -/
def text (value : Float) : List Char :=
  let bits := value.toBits.toNat
  let magnitude := bits % Nat.pow 2 63
  if Nat.pow 2 63 ≤ bits ∧ magnitude ≤ infinityBits then
    '-' :: magnitudeText magnitude
  else
    magnitudeText magnitude

end WindowPlacement.Decimal
