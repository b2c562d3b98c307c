import ProfileDrift.Scalar.Double

namespace ProfileDrift.Scalar

variable {α : Type} [Scalar α]

def addSingle (left right : α) : α := toSingle (left + right)

/-- The first half of the lanes added to the second half, lane by lane. -/
def halve (lanes : List α) : List α :=
  (lanes.take (lanes.length / 2)).zipWith addSingle (lanes.drop (lanes.length / 2))

/-- Eight lanes collapsed into one sum by halving three times. -/
def collapse (lanes : List α) : α := (halve (halve (halve lanes))).headD 0.0

/-- Adds full blocks of eight to the lanes. The lanes are then collapsed, and
the fewer than eight values that are left are summed on their own, from
negative zero so that their sum keeps its sign, and added last. -/
def blockSumFrom (lanes : List α) : List α → α
  | a :: b :: c :: d :: e :: f :: g :: h :: rest =>
    blockSumFrom (lanes.zipWith addSingle [a, b, c, d, e, f, g, h]) rest
  | rest => addSingle (collapse lanes) (rest.foldl addSingle (-0.0))

/-- The sum of single precision values, taken in eight lanes. -/
def blockSum (values : List α) : α := blockSumFrom (List.replicate 8 0.0) values

/-- The mean of single precision values, itself a single precision value. -/
def blockMean (values : List α) : α :=
  toSingle (blockSum values / toSingle (ofCount values.length))

end ProfileDrift.Scalar

namespace ProfileDrift

/-- Sums and means as they come out of eight lanes. -/
@[reducible] def Tally.lanes {α : Type} [Scalar α] : Tally α := ⟨Scalar.blockSum, Scalar.blockMean⟩

namespace Lanes

/-- The program runs with a library that takes eight values at a time. -/
scoped instance : Tally Float := .lanes

theorem mean_eq (values : List Float) : Tally.mean values =
    Scalar.toSingle (Tally.sum values / Scalar.toSingle (Scalar.ofCount values.length)) := rfl

end Lanes

end ProfileDrift
