import ProfileDrift.Decimal.Literal

namespace ProfileDrift.Decimal

/-- Takes digits into a significand while it stays within 64 bits. The first digit that does not
fit and all digits after it are left out; their number is told as well. -/
def absorb (significand : Nat) : List Char → Nat × Nat
  | [] => (significand, 0)
  | digit :: rest =>
    let next := 10 * significand + (digit.toNat - '0'.toNat)
    if next < Nat.pow 2 64 then absorb next rest else (significand, rest.length + 1)

def tenTo (places : Nat) : Float := Float.ofScientific 1 false places

/-- Divides by a power of ten, by three hundred and eight places at most in one step. -/
def lowered (size : Float) (places : Nat) : Float :=
  if places ≤ 308 then size / tenTo places
  else if size == 0.0 then size
  else lowered (size / tenTo 308) (places - 308)
termination_by places
decreasing_by omega

/-- A significand that counts by a power of ten. It is rounded to a double first and again when
it is multiplied or divided, so the double need not be the nearest one. -/
def scaled (significand : Nat) (scale : Int) : Float :=
  let size := Float.ofNat significand
  if scale < 0 then lowered size scale.natAbs
  else if scale ≤ 308 then size * tenTo scale.natAbs
  else if size == 0.0 then size
  else 1.0 / 0.0

namespace Literal

/-- The double that a literal is turned into with few steps, infinite if it overflows. Digits
before the point that are left out still count as places. -/
def stepwise (literal : Literal) : Float :=
  let (begun, places) := absorb 0 literal.whole
  let (significand, ignored) := absorb begun literal.fraction
  let size := scaled significand
    (literal.exponent + places - (literal.fraction.length - ignored : Nat))
  if literal.negative then -size else size

end Literal

end ProfileDrift.Decimal
