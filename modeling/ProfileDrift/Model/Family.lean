namespace ProfileDrift

/-- The shape of a curve that amounts may follow as sizes grow. The constructors
stand in the alphabetical order of their names. -/
inductive Family where
  /-- A level `a`. -/
  | constant
  /-- Growth by a factor, `a * b ^ x`. -/
  | exponential
  /-- A straight line `a + b * x`. -/
  | linear
  /-- A line over the logarithm, `a + b * log10 x`. -/
  | logarithmic
  /-- A power law `a * x ^ b`. -/
  | power
  /-- A line over the square, `a + b * x * x`. -/
  | quadratic
  deriving DecidableEq, Repr

namespace Family

def all : List Family := [constant, exponential, linear, logarithmic, power, quadratic]

def name : Family → String
  | constant => "constant"
  | exponential => "exponential"
  | linear => "linear"
  | logarithmic => "logarithmic"
  | power => "power"
  | quadratic => "quadratic"

/-- The short name by which a family may be called as well. -/
def alias? : Family → Option String
  | exponential => some "exp"
  | logarithmic => some "log"
  | quadratic => some "quad"
  | _ => none

def ofName? (text : String) : Option Family :=
  all.find? fun family => family.name == text || family.alias? == some text

/-- Every name that calls a family, in alphabetical order. -/
def callNames : List String :=
  ["constant", "exp", "exponential", "linear", "log", "logarithmic", "power", "quad", "quadratic"]

/-- How steeply a family grows, from the level to the exponential. A change of
family is a degradation when this number rises. -/
def complexity : Family → Nat
  | constant => 0
  | logarithmic => 1
  | linear => 2
  | quadratic => 3
  | power => 4
  | exponential => 5

def coefficientCount : Family → Nat
  | constant => 1
  | _ => 2

/-- Fitting takes the logarithm of sizes. -/
def needsPositiveX : Family → Bool
  | logarithmic | power => true
  | _ => false

/-- Fitting takes the logarithm of amounts. -/
def needsPositiveY : Family → Bool
  | power | exponential => true
  | _ => false

end Family

end ProfileDrift
