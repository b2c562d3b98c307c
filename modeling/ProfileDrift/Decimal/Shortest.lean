import ProfileDrift.Decimal.Dyadic
import ProfileDrift.Decimal.Rounding

namespace ProfileDrift

/-- A positive decimal number: a whole number of units of a power of ten. -/
structure Scaled where
  significand : Nat
  exponent : Int
  deriving DecidableEq, Repr

namespace Dyadic

/-- Does the decimal `significand * 10 ^ exponent` read back as this double? The
reals that do lie between the midpoints to the neighbours, and the midpoints
belong to them exactly when the mantissa is even. Both sides are compared in
units of a quarter of the last binary place. -/
def readsBack (value : Dyadic) (significand : Nat) (exponent : Int) : Bool :=
  let (below, above) := value.margins
  let place := value.exponent - 2
  let decimal := significand * Nat.pow 10 exponent.toNat * Nat.pow 2 (-place).toNat
  let scale := Nat.pow 10 (-exponent).toNat * Nat.pow 2 place.toNat
  let low := (4 * value.mantissa - below) * scale
  let high := (4 * value.mantissa + above) * scale
  if value.mantissa % 2 = 0 then decide (low ≤ decimal) && decide (decimal ≤ high)
  else decide (low < decimal) && decide (decimal < high)

/-- Of the two neighbours of the value among multiples of a power of ten, the
nearest that reads back. -/
def nearestOnGrid? (value : Dyadic) (exponent : Int) : Option Nat :=
  let (numerator, denominator) := Decimal.inUnits value.numerator value.denominator exponent
  let nearest := Decimal.roundDiv numerator denominator
  let floor := numerator / denominator
  let other := if nearest = floor then floor + 1 else floor
  if value.readsBack nearest exponent then some nearest
  else if value.readsBack other exponent then some other
  else none

/-- Tries grids of ever more digits. Seventeen digits tell any two doubles
apart, so the search ends within its bound. -/
def shortestFrom (value : Dyadic) (leading : Int) : Nat → Nat → Scaled
  | 0, count => ⟨(value.nearestOnGrid? (leading - count)).getD 0, leading - count⟩
  | tries + 1, count =>
    match value.nearestOnGrid? (leading - count) with
    | some significand => ⟨significand, leading - count⟩
    | none => value.shortestFrom leading tries (count + 1)

/-- The decimal of fewest digits that reads back as this positive double, and
of those the nearest to it. A value just below a power of ten may be nearest to
that power, which then has one digit of the next exponent. -/
def shortest (value : Dyadic) : Scaled :=
  let found :=
    value.shortestFrom (Decimal.leadingExponent value.numerator value.denominator) 16 0
  if found.significand = 10 then ⟨1, found.exponent + 1⟩ else found

end Dyadic

end ProfileDrift
