namespace ProfileDrift.Decimal

/-- A number as it stands in a text: a sign, digits before and after the point,
and an exponent of ten. -/
structure Literal where
  negative : Bool
  whole : List Char
  fraction : List Char
  exponent : Int
  deriving DecidableEq, Repr

def ofDigits (text : List Char) : Nat :=
  text.foldl (fun number digit => 10 * number + (digit.toNat - '0'.toNat)) 0

namespace Literal

def significand (literal : Literal) : Nat := ofDigits (literal.whole ++ literal.fraction)

/-- The power of ten by which the significand counts. -/
def scale (literal : Literal) : Int := literal.exponent - literal.fraction.length

/-- The double nearest to a positive decimal. Beyond four hundred places either
way from the point the answer is known without forming the power of ten. -/
def magnitude (significand : Nat) (scale : Int) : Float :=
  let size := scale + (Nat.toDigits 10 significand).length
  if significand = 0 ∨ size < -400 then 0.0
  else if 400 < size then 1.0 / 0.0
  else if scale < 0 then Float.ofScientific significand true scale.natAbs
  else Float.ofScientific significand false scale.natAbs

/-- The double nearest to the literal, infinite if it overflows. -/
def toFloat (literal : Literal) : Float :=
  let size := magnitude literal.significand literal.scale
  if literal.negative then -size else size

end Literal

end ProfileDrift.Decimal
