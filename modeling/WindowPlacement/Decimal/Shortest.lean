/-!
# The shortest decimal that reads back

A finite positive binary64 number is `m · 2 ^ q`.  The reals that round to it form
an interval around it, whose ends belong to it exactly when `m` is even.  Among the
decimals `d · 10 ^ e` in that interval the shortest ones are those on the coarsest
grid of powers of ten, and on that grid the nearest to the number is taken; of two
equally near ones the larger.

On a given grid only the two neighbours of the number have to be looked at: if any
point of the grid lies in the interval, one of them does.
-/

namespace WindowPlacement.Decimal

/-- A finite positive binary64 number `significand · 2 ^ exponent`. -/
structure Binary where
  significand : Nat
  exponent : Int
  deriving DecidableEq, Repr

/-- The magnitude of a number from the lower 63 bits of its encoding. -/
def Binary.ofMagnitudeBits (bits : Nat) : Binary :=
  let biased : Nat := bits / Nat.pow 2 52
  let fraction : Nat := bits % Nat.pow 2 52
  if biased = 0 then
    ⟨fraction, -1074⟩
  else
    ⟨Nat.pow 2 52 + fraction, biased - 1075⟩

/-- The interval of reals that round to a number, in quarters of its last place:
all of `low`, `middle` and `high` are to be multiplied by `2 ^ exponent`. -/
structure Interval where
  low : Nat
  middle : Nat
  high : Nat
  exponent : Int
  closed : Bool
  deriving DecidableEq, Repr

/-- Half a unit on either side, but only a quarter below a power of two, where the
numbers below lie twice as close. -/
def Binary.interval (b : Binary) : Interval where
  low := if b.significand = Nat.pow 2 52 ∧ -1074 < b.exponent then
      4 * b.significand - 1
    else
      4 * b.significand - 2
  middle := 4 * b.significand
  high := 4 * b.significand + 2
  exponent := b.exponent - 2
  closed := b.significand % 2 = 0

/-- The decimal `digits · 10 ^ exponent`. -/
structure Digits where
  digits : Nat
  exponent : Int
  deriving DecidableEq, Repr

/-- The factors by which `2 ^ binary` and `10 ^ decimal` turn into whole numbers
with the same ratio. -/
def commonScale (binary decimal : Int) : Nat × Nat :=
  (Nat.pow 2 binary.toNat * Nat.pow 10 (-decimal).toNat,
    Nat.pow 2 (-binary).toNat * Nat.pow 10 decimal.toNat)

/-- The point of the grid `10 ^ decimal` that stands for the interval, if the grid
has a point in it. -/
def Interval.onGrid? (i : Interval) (decimal : Int) : Option Digits :=
  let (scale, step) := commonScale i.exponent decimal
  let low := i.low * scale
  let middle := i.middle * scale
  let high := i.high * scale
  let inside (point : Nat) : Bool :=
    if i.closed then low ≤ point && point ≤ high else low < point && point < high
  let below := middle / step
  let above := below + 1
  match inside (below * step), inside (above * step) with
  | true, true =>
    if middle - below * step < above * step - middle then
      some ⟨below, decimal⟩
    else
      some ⟨above, decimal⟩
  | true, false => some ⟨below, decimal⟩
  | false, true => some ⟨above, decimal⟩
  | false, false => none

/-- An exponent `e` with the number below `10 ^ (e + 1)`: the exact one or one more.
The bound is `10 ^ 0.30103 > 2`. -/
def Binary.decimalExponent (b : Binary) : Int :=
  ((b.significand.log2 + 1 + b.exponent) * 30103).fdiv 100000 + 1

/-- The shortest decimal that reads back as the number, nearest first.  Eighteen
grids always include one with a hit, since seventeen digits tell any two numbers
apart. -/
def Binary.shortest (b : Binary) : Digits :=
  ((List.range 20).findSome? fun (n : Nat) =>
    b.interval.onGrid? (b.decimalExponent - n)).getD ⟨0, 0⟩

end WindowPlacement.Decimal
