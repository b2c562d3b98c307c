import ProfileDrift.Method.Basic
import ProfileDrift.Method.Curve

namespace ProfileDrift.Method

variable {α : Type} [Scalar α]

/-- The mean amount of a group, taken in single precision, if it has any amounts. -/
def averageAmount? [Tally α] (profile : Profile α) (uid : String) : Option α :=
  match profile.observations uid with
  | [] => none
  | observations =>
    some (Tally.mean (observations.map fun point => Scalar.toSingle point.y))

def amountText [Hundredths α] (unit : String) : Option α → String
  | some amount => Hundredths.hundredths amount ++ unit
  | none => "n/a"

/-- A ratio at or above the first threshold is a degradation, at or below the
second an optimization. -/
def ratioChange (degradation optimization ratio : α) : ChangeKind :=
  if degradation ≤ ratio then .degradation
  else if ratio ≤ optimization then .optimization
  else .noChange

/-- Compares mean amounts, shown in the unit of the target. There is no ratio to
a mean that is zero, not finite or missing. -/
def compareAverages [Tally α] [Hundredths α] (degradation optimization : α)
    (baseline target : Profile α) (uid : String) : ChangeReport α :=
  let unit := target.unit.getD ""
  let base := averageAmount? baseline uid
  let other := averageAmount? target uid
  let report := (ChangeReport.undetermined MethodName.averageAmount.full "ratio" uid).withValues
    (amountText unit base) (amountText unit other)
  match base, other with
  | some base, some other =>
    if base == 0.0 || !Scalar.isFinite base || !Scalar.isFinite other then report
    else
      let ratio := other / base
      { report with kind := ratioChange degradation optimization ratio }.withRate ratio
  | _, _ => report

/-- What the method finds out about one resource group of two profiles. -/
def compare [Tally α] [Hundredths α] (method : Method α) (baseline target : Profile α)
    (uid : String) : ChangeReport α :=
  match method with
  | .averageAmount degradation optimization =>
    compareAverages degradation optimization baseline target uid
  | .modelOrder confidence => compareOrder confidence baseline target uid
  | .fastCheck change =>
    compareCurves .fastCheck change CurveDifference.bestShape baseline target uid
  | .integral noChange change => compareAreas noChange change baseline target uid
  | .linearRegression change =>
    compareCurves .linearRegression change CurveDifference.trend baseline target uid

end ProfileDrift.Method
