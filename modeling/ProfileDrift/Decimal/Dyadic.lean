namespace ProfileDrift

/-- The size of a finite double as a whole number of units of a power of two. -/
structure Dyadic where
  mantissa : Nat
  exponent : Int
  deriving DecidableEq, Repr

namespace Dyadic

/-- Reads the fields of a double; its sign is left aside. A subnormal double
has no implicit leading bit and the exponent of the smallest normal one. -/
def ofFloat (value : Float) : Dyadic :=
  let bits := value.toBits.toNat
  let fraction := bits % Nat.pow 2 52
  let biased := bits / Nat.pow 2 52 % Nat.pow 2 11
  if biased = 0 then ⟨fraction, -1074⟩
  else ⟨Nat.pow 2 52 + fraction, Int.subNatNat biased 1075⟩

/-- The numerator of the value as a fraction of whole numbers. -/
def numerator (value : Dyadic) : Nat := value.mantissa * Nat.pow 2 value.exponent.toNat

/-- The denominator of the value as a fraction of whole numbers. -/
def denominator (value : Dyadic) : Nat := Nat.pow 2 (-value.exponent).toNat

/-- The value times four, in units of the exponent less two, and half the
distance to the next smaller and to the next larger double in the same units.
The smaller neighbour of a power of two is only half as far away. -/
def margins (value : Dyadic) : Nat × Nat :=
  if value.mantissa = Nat.pow 2 52 ∧ -1074 < value.exponent then (1, 2) else (2, 2)

end Dyadic

end ProfileDrift
