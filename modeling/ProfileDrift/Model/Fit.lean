import ProfileDrift.Observation
import ProfileDrift.Model.Basic
import ProfileDrift.Scalar.Distinct

namespace ProfileDrift

/-- Which side of an observation lies outside a family's domain. -/
inductive Axis where
  | x
  | y
  deriving DecidableEq, Repr

inductive FitFailure where
  | empty
  | domain (family : Family) (side : Axis)
  | degenerate (family : Family)
  | flatData (family : Family)
  | singularSystem (family : Family)
  | nonFinite (family : Family)
  deriving DecidableEq, Repr

namespace FitFailure

def message : FitFailure → String
  | empty => "no observations to fit"
  | domain family .x => s!"{family.name} model is undefined for non-positive x"
  | domain family .y => s!"{family.name} model is undefined for non-positive y"
  | degenerate family =>
    s!"{family.name} model needs at least two observations with distinct x values"
  | flatData family =>
    s!"{family.name} model cannot be fitted to data with zero variance in y"
  | singularSystem family => s!"singular system while fitting {family.name} model"
  | nonFinite family => s!"non-finite result while fitting {family.name} model"

end FitFailure

namespace Model

variable {α : Type} [Scalar α]

/-- Refuses observations outside the domain of the family, sizes before amounts. -/
def checkDomain (family : Family) (observations : List (Observation α)) :
    Except FitFailure Unit :=
  if family.needsPositiveX && observations.any (fun point => decide (point.x ≤ 0.0)) then
    .error (.domain family .x)
  else if family.needsPositiveY && observations.any (fun point => decide (point.y ≤ 0.0)) then
    .error (.domain family .y)
  else .ok ()

/-- A curve with a slope needs two different sizes and two different amounts. -/
def checkSpread (family : Family) (observations : List (Observation α)) :
    Except FitFailure Unit :=
  match observations with
  | [] => .error (.degenerate family)
  | first :: _ =>
    if observations.length < 2 ∨ Scalar.distinctCount (observations.map (·.x)) < 2 then
      .error (.degenerate family)
    else if observations.all (fun point => point.y == first.y) then .error (.flatData family)
    else .ok ()

/-- Sums of products of deviations from the means, and the largest deviation of
the independent side. -/
structure Deviations (α : Type) where
  uu : α
  uv : α
  largest : α

def deviations (uMean vMean : α) (points : List (α × α)) : Deviations α :=
  points.foldl
    (fun sums (u, v) =>
      let du := u - uMean
      { uu := sums.uu + du * du
        uv := sums.uv + du * (v - vMean)
        largest := Scalar.larger sums.largest (Scalar.abs du) })
    ⟨0.0, 0.0, 0.0⟩

/-- The least squares line `v = a + b * u`. Deviations are taken from the means
first, and a spread within the rounding error of the mean counts as none. -/
def regress (family : Family) (points : List (α × α)) : Except FitFailure (α × α) :=
  let uMean := Scalar.mean (points.map (·.1))
  let vMean := Scalar.mean (points.map (·.2))
  let sums := deviations uMean vMean points
  let rounding := Scalar.ofCount points.length * Scalar.resolution * Scalar.abs uMean
  if !Scalar.isFinite sums.uu || !Scalar.isFinite sums.uv then .error (.nonFinite family)
  else if sums.uu == 0.0 || decide (sums.largest ≤ rounding) then
    .error (.singularSystem family)
  else
    let b := sums.uv / sums.uu
    .ok (vMean - b * uMean, b)

/-- Sizes and amounts in the coordinates in which the family is a straight line. -/
def linearised (family : Family) (point : Observation α) : α × α :=
  match family with
  | .logarithmic => (Scalar.log10 point.x, point.y)
  | .power => (Scalar.log10 point.x, Scalar.log10 point.y)
  | .exponential => (point.x, Scalar.log10 point.y)
  | .quadratic => (point.x * point.x, point.y)
  | .constant | .linear => (point.x, point.y)

/-- The coefficients of the curve whose straight line in linearised coordinates
is `a + b * u`. -/
def delinearised (family : Family) (a b : α) : List α :=
  match family with
  | .power => [Scalar.power 10.0 a, b]
  | .exponential => [Scalar.power 10.0 a, Scalar.power 10.0 b]
  | _ => [a, b]

/-- The coefficients of the best curve of a family: the mean amount for the
level, the least squares line in linearised coordinates for the others. -/
def bestCoefficients (family : Family) (observations : List (Observation α)) :
    Except FitFailure (List α) :=
  match family with
  | .constant => .ok [Scalar.mean (observations.map (·.y))]
  | _ =>
    match regress family (observations.map (linearised family)) with
    | .ok (a, b) => .ok (delinearised family a b)
    | .error failure => .error failure

def sizeRange (observations : List (Observation α)) : α × α :=
  observations.foldl
    (fun (low, high) point => (Scalar.smaller low point.x, Scalar.larger high point.x))
    (Scalar.infinity, -Scalar.infinity)

/-- The part of the variance of the amounts that the curve explains. Amounts
without variance are explained perfectly. -/
def explained (model : Model α) (observations : List (Observation α)) : α :=
  let yMean := Scalar.mean (observations.map (·.y))
  let (residual, total) := observations.foldl
    (fun (residual, total) point =>
      let error := point.y - model.evaluate point.x
      let deviation := point.y - yMean
      (residual + error * error, total + deviation * deviation))
    ((0.0 : α), (0.0 : α))
  if total == 0.0 then 1.0 else 1.0 - residual / total

/-- The curve of a family that fits the observations best, with its coefficient
of determination against the amounts as measured. Every number of a fitted
model is finite except perhaps the ends of the range. -/
def fit (family : Family) (observations : List (Observation α)) :
    Except FitFailure (Model α) := do
  if observations.isEmpty then throw .empty
  checkDomain family observations
  if family ≠ .constant then checkSpread family observations
  let coefficients ← bestCoefficients family observations
  if coefficients.any (fun value => !Scalar.isFinite value) then throw (.nonFinite family)
  let (xStart, xEnd) := sizeRange observations
  let rSquare := explained ⟨family, coefficients, 0.0, xStart, xEnd⟩ observations
  if !Scalar.isFinite rSquare then throw (.nonFinite family)
  return ⟨family, coefficients, rSquare, xStart, xEnd⟩

/-- Every family that can be fitted, in the order of families. One whose domain leaves an
observation out is not tried. -/
def fitAll (observations : List (Observation α)) : List (Model α) :=
  Family.all.filterMap fun family =>
    match checkDomain family observations with
    | .error _ => none
    | .ok () => (fit family observations).toOption

end Model

end ProfileDrift
