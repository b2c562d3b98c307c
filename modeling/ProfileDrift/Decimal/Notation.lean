import ProfileDrift.Scalar.Double
import ProfileDrift.Decimal.Shortest

namespace ProfileDrift.Decimal

/-- Is the sign bit set? It is for negative zero as well. -/
def isNegative (value : Float) : Bool := value.toBits.toNat / Nat.pow 2 63 == 1

def sign (value : Float) : List Char := if isNegative value then ['-'] else []

/-- A whole number in decimal, with a minus sign if it is below zero. -/
def integerText : Int → List Char
  | .ofNat number => digits number
  | .negSucc number => '-' :: digits (number + 1)

/-- Digits with a point after so many of them; a missing side of the point is
filled with zeros. -/
def pointed (text : List Char) (before : Int) : List Char :=
  if before ≤ 0 then '0' :: '.' :: (List.replicate (-before).toNat '0' ++ text)
  else if text.length ≤ before.toNat then
    text ++ List.replicate (before.toNat - text.length) '0' ++ ['.', '0']
  else text.take before.toNat ++ '.' :: text.drop before.toNat

/-- One digit, a point and the others if there are others, then the exponent. -/
def scientific (text : List Char) (exponent : Int) (plus : Bool) : List Char :=
  let power := if 0 ≤ exponent ∧ plus then '+' :: integerText exponent else integerText exponent
  match text with
  | [] => []
  | [digit] => digit :: 'e' :: power
  | digit :: rest => digit :: '.' :: (rest ++ 'e' :: power)

/-- The decimal digits of the shortest form and the exponent of the first one. -/
def shortestDigits (value : Float) : List Char × Int :=
  let scaled := (Dyadic.ofFloat value).shortest
  let text := digits scaled.significand
  (text, scaled.exponent + text.length - 1)

/-- Shortest digits, positional for values from `0.00001` up to sixteen digits
before the point and always with a fraction, else with an exponent that carries
its sign. This is how a finite double is written in a document. -/
def shortestText (value : Float) : List Char :=
  if (Dyadic.ofFloat value).mantissa = 0 then sign value ++ "0.0".toList
  else
    let (text, exponent) := shortestDigits value
    sign value ++
      (if -5 ≤ exponent ∧ exponent ≤ 15 then pointed text (exponent + 1)
       else scientific text exponent true)

/-- Shortest digits, positional whatever the magnitude and always with a
fraction; words for what is not finite. -/
def positionalText (value : Float) : List Char :=
  if value.isNaN then "NaN".toList
  else if value.isInf then sign value ++ "inf".toList
  else if (Dyadic.ofFloat value).mantissa = 0 then sign value ++ "0.0".toList
  else
    let (text, exponent) := shortestDigits value
    sign value ++ pointed text (exponent + 1)

/-- Exactly so many decimal places, a half going to the even neighbour; words
for what is not finite. -/
def fixedText (places : Nat) (value : Float) : List Char :=
  if value.isNaN then "NaN".toList
  else if value.isInf then sign value ++ "inf".toList
  else
    let size := Dyadic.ofFloat value
    let units := roundDiv (size.numerator * Nat.pow 10 places) size.denominator
    let fraction := digits (units % Nat.pow 10 places)
    sign value ++ digits (units / Nat.pow 10 places) ++
      '.' :: (List.replicate (places - fraction.length) '0' ++ fraction)

end ProfileDrift.Decimal

namespace ProfileDrift

instance : Hundredths Float where
  hundredths := fun value => String.ofList (Decimal.fixedText 2 value)

end ProfileDrift
