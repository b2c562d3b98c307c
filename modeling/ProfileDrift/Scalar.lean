namespace ProfileDrift

/-- The numbers in which sizes and amounts are measured and models are fitted.
Every rule of the library is stated over a scalar, so that it can be read in
double precision, where it runs, and in exact arithmetic, where its meaning is
plain. A quotient may be something that is not finite; the rules test for it. -/
class Scalar (α : Type) extends
    Add α, Sub α, Mul α, Div α, Neg α, LT α, LE α, BEq α, OfScientific α where
  /-- Comparison decides, and says no when either side is not a number. -/
  decideLt : DecidableLT α
  /-- Comparison decides, and says no when either side is not a number. -/
  decideLe : DecidableLE α
  /-- The scalar that counts so many things. -/
  ofCount : Nat → α
  /-- Above every finite scalar. -/
  infinity : α
  /-- The gap between one and the next double above it, by which rounding errors are judged. -/
  resolution : α
  /-- Neither infinite nor the result of a meaningless operation. -/
  isFinite : α → Bool
  abs : α → α
  /-- The smaller of two; an operand that is not a number is ignored. -/
  smaller : α → α → α
  /-- The larger of two; an operand that is not a number is ignored. -/
  larger : α → α → α
  /-- Whether the one may stand before the other in a row of all scalars, in which even
  those that cannot be compared have a place. -/
  precedes : α → α → Bool
  /-- Rounds to the coarser precision in which means and sums of amounts are taken. -/
  toSingle : α → α
  log10 : α → α
  ln : α → α
  power : α → α → α

instance Scalar.decidableLT {α : Type} [Scalar α] : DecidableLT α := Scalar.decideLt

instance Scalar.decidableLE {α : Type} [Scalar α] : DecidableLE α := Scalar.decideLe

/-- Scalars that can be shown in a report with exactly two decimal places. -/
class Hundredths (α : Type) where
  hundredths : α → String

/-- How single precision values are added up and averaged. That is left to a library, and in
which order it takes the values is its own affair. -/
class Tally (α : Type) where
  sum : List α → α
  mean : List α → α

namespace Scalar

variable {α : Type} [Scalar α]

/-- The sum from zero, left to right. -/
def sum (values : List α) : α := values.foldl (· + ·) 0.0

/-- The sum divided by the count, so nothing finite for an empty list. -/
def mean (values : List α) : α := sum values / ofCount values.length

/-- The value moved to the nearer end of `[low, high]` when it lies outside. -/
def clamp (low high value : α) : α :=
  let raised := if value < low then low else value
  if high < raised then high else raised

end Scalar

end ProfileDrift
