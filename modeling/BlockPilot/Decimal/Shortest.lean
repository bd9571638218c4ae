import BlockPilot.Binary64

/-!
# Shortest decimals

`Decimal.shortest` finds the decimal with the fewest digits that rounds back to a given finite
number, and among those of that length the one nearest to it. A decimal lies in the *reading
interval* of the number when it rounds to it; for a given count of digits only the two neighbours
of the number on the decimal grid need to be tried, since the interval contains the number.
-/

namespace BlockPilot

/-- The decimal `digits * 10 ^ exponent`. -/
structure Decimal where
  digits : Nat
  exponent : Int
  deriving DecidableEq, Repr

/-- Which of two equally near decimals is taken. -/
inductive Tie where
  | away
  | toEven
  deriving DecidableEq, Repr

/-- How many decimal digits `n` has, and 0 for 0. -/
def digitCount (n : Nat) : Nat :=
  if n = 0 then 0 else (Nat.toDigits 10 n).length

namespace Decimal

/-- The position of the decimal point: the value lies below `10 ^ position` and, unless it is
zero, not below a tenth of that. -/
def position (d : Decimal) : Int :=
  digitCount d.digits + d.exponent

/-- Moves trailing zeros of the digits into the exponent, at most `fuel` of them. -/
def strip (fuel : Nat) (d : Decimal) : Decimal :=
  match fuel with
  | 0 => d
  | fuel + 1 =>
    if d.digits ≠ 0 ∧ d.digits % 10 = 0 then strip fuel ⟨d.digits / 10, d.exponent + 1⟩ else d

/-! ## The reading interval

All magnitudes in this section are counted in quarters of a unit, so that the halves between
neighbouring numbers are whole. -/

/-- A magnitude with the ends of the interval of reals that round to it. -/
structure Interval where
  low : Nat
  value : Nat
  high : Nat
  closed : Bool

/-- The reading interval of a mantissa and scale. Below a power of two the neighbour is twice as
near; the ends belong to the interval when the mantissa is even. -/
def readingInterval (mantissa scale : Nat) : Interval :=
  let quarter := Nat.pow 2 scale
  let value := 4 * mantissa * quarter
  let below := if mantissa = Nat.pow 2 52 ∧ 0 < scale then quarter else 2 * quarter
  ⟨value - below, value, value + 2 * quarter, mantissa % 2 == 0⟩

/-- Quarters of a unit in one. -/
def quartersPerOne : Nat := 4 * Binary64.unitsPerOne

/-- The decimal point's position of a positive magnitude. -/
def magnitudePosition (value : Nat) : Int :=
  digitCount (value * Nat.pow 10 400 / quartersPerOne) - 400

namespace Interval

/-- The interval stretched by a factor. -/
def stretch (i : Interval) (factor : Nat) : Interval :=
  ⟨i.low * factor, i.value * factor, i.high * factor, i.closed⟩

def contains (i : Interval) (x : Nat) : Bool :=
  if i.closed then decide (i.low ≤ x ∧ x ≤ i.high) else decide (i.low < x ∧ x < i.high)

/-- The multiple of `step` next to the value that lies in the interval, the nearer of two, as a
count of steps. -/
def nearestStep? (i : Interval) (tie : Tie) (step : Nat) : Option Nat :=
  let lower := i.value / step
  let upper := lower + 1
  match i.contains (lower * step), i.contains (upper * step) with
  | false, false => none
  | true, false => some lower
  | false, true => some upper
  | true, true =>
    let down := i.value - lower * step
    let up := upper * step - i.value
    if down < up then some lower
    else if up < down then some upper
    else match tie with
      | .away => some upper
      | .toEven => some (if lower % 2 = 0 then lower else upper)

/-- The decimal of `count` digits nearest to the value, if one lies in the interval. -/
def decimal? (i : Interval) (tie : Tie) (position : Int) (count : Nat) : Option Decimal :=
  let exponent := position - count
  let found :=
    if 0 ≤ exponent then i.nearestStep? tie (Nat.pow 10 exponent.toNat * quartersPerOne)
    else (i.stretch (Nat.pow 10 (-exponent).toNat)).nearestStep? tie quartersPerOne
  found.map fun digits => ⟨digits, exponent⟩

end Interval

/-- The shortest decimal that rounds to `mantissa * 2 ^ scale` units, for a positive mantissa;
seventeen digits always suffice. -/
def shortest (tie : Tie) (mantissa scale : Nat) : Decimal :=
  let interval := readingInterval mantissa scale
  let position := magnitudePosition interval.value
  let found := (List.range 17).findSome? fun k => interval.decimal? tie position (k + 1)
  (found.getD ⟨0, 0⟩).strip 20

end Decimal

end BlockPilot
