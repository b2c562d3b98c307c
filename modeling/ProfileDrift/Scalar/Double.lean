import ProfileDrift.Decimal.Dyadic
import ProfileDrift.Scalar

namespace ProfileDrift

namespace Double

open Float.Model (Format UnpackedFloat)

/-- Where a double stands in the row of all doubles. Below zero the bits count backwards;
negative zero comes before zero, and what is not a number stands beyond the infinities. -/
def rank (value : Float) : Int :=
  let bits := value.toBits.toNat
  if bits < Nat.pow 2 63 then bits else Int.subNatNat (Nat.pow 2 63) (bits + 1)

/-- A number with no more places than a format has, the nearest one and of two that are as
near the even one. -/
def rounded (format : Format) : UnpackedFloat → UnpackedFloat
  | .finite sign mantissa exponent _ => UnpackedFloat.round format sign mantissa exponent
  | number => number

/-- The single that is nearest to a double, which is infinite beyond the largest one. -/
def nearestSingle (value : Float) : Float32.Model :=
  Float32.Model.pack (rounded Format.binary32 value.toModel.unpack)

def ofSingle (single : Float32.Model) : Float :=
  Float.ofModel (Float.Model.pack (rounded Format.binary64 single.unpack))

def isOdd (value : Float) : Bool :=
  let size := Dyadic.ofFloat value
  value.isFinite && size.numerator % size.denominator == 0 &&
    size.numerator / size.denominator % 2 == 1

/-- The powers of the two zeros, as the standard for floating-point numbers lays them down.
An odd exponent keeps the sign of the zero. -/
def powerOfZero (zero exponent : Float) : Float :=
  if 0.0 < exponent then if isOdd exponent then zero else 0.0
  else if exponent < 0.0 then 1.0 / if isOdd exponent then zero else 0.0
  else exponent

/-- Powers come from the library of the platform, apart from those that the standard lays
down. -/
def power (base exponent : Float) : Float :=
  if exponent == 0.0 then 1.0
  else if base == 0.0 then powerOfZero base exponent
  else Float.pow base exponent

/-- Logarithms come from the library of the platform as well, apart from those of zero and of
what is not finite. -/
def ln (value : Float) : Float :=
  if value == 0.0 then -1.0 / 0.0
  else if value.isFinite then Float.log value
  else if value < 0.0 then 0.0 / 0.0
  else value

end Double

/-- Double precision, with single precision as the coarser one. A sum or a
quotient of two singles is rounded twice when it is computed in double
precision first, and that gives the same single as rounding it once. Of two equal zeros the
second is taken for the smaller one and for the larger one. -/
instance : Scalar Float where
  decideLt := fun left right => inferInstanceAs (Decidable (left < right))
  decideLe := fun left right => inferInstanceAs (Decidable (left ≤ right))
  ofCount := Float.ofNat
  infinity := 1.0 / 0.0
  resolution := 2.220446049250313e-16
  isFinite := Float.isFinite
  abs := Float.abs
  smaller := fun left right =>
    if right.isNaN then left else if left < right then left else right
  larger := fun left right =>
    if right.isNaN then left else if right < left then left else right
  precedes := fun left right => decide (Double.rank left ≤ Double.rank right)
  toSingle := fun value => Double.ofSingle (Double.nearestSingle value)
  log10 := Float.log10
  ln := Double.ln
  power := Double.power

end ProfileDrift
