namespace ProfileDrift.Decimal

/-- The whole number nearest to a fraction; a fraction half way between two
goes to the even one. -/
def roundDiv (numerator denominator : Nat) : Nat :=
  let quotient := numerator / denominator
  let rest := numerator % denominator
  if 2 * rest < denominator then quotient
  else if denominator < 2 * rest then quotient + 1
  else if quotient % 2 = 0 then quotient else quotient + 1

/-- The decimal digits of a whole number, most significant first. -/
def digits (number : Nat) : List Char := Nat.toDigits 10 number

/-- The exponent of the leading decimal digit of a positive fraction. -/
def leadingExponent (numerator denominator : Nat) : Int :=
  if denominator ≤ numerator then ((digits (numerator / denominator)).length : Int) - 1
  else -((digits ((denominator + numerator - 1) / numerator - 1)).length : Int)

/-- The fraction in units of a power of ten, as a fraction again. -/
def inUnits (numerator denominator : Nat) (exponent : Int) : Nat × Nat :=
  (numerator * Nat.pow 10 (-exponent).toNat, denominator * Nat.pow 10 exponent.toNat)

end ProfileDrift.Decimal
