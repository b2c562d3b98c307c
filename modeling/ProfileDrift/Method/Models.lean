import ProfileDrift.Change.Report
import ProfileDrift.Method.Name
import ProfileDrift.Profile.Basic

namespace ProfileDrift.Method

variable {α : Type} [Scalar α]

def familyName : Option (Model α) → String
  | some model => model.family.name
  | none => "unknown"

/-- Two models explain no more than the one that explains less. -/
def confidenceOf (baseline target : Model α) : α :=
  Scalar.clamp 0.0 1.0 (Scalar.smaller baseline.rSquare target.rSquare)

/-- The range of sizes that both models were fitted on, if there is one. -/
def sharedRange? (baseline target : Model α) : Option (α × α) :=
  let start := Scalar.larger baseline.xStart target.xStart
  let stop := Scalar.smaller baseline.xEnd target.xEnd
  if start < stop then some (start, stop) else none

/-- A report on the best models of both sides. Nothing can be said when a side
has none, apart from the family of the other. -/
def reportOnModels (method : MethodName) (subtype : String) (baseline target : Profile α)
    (uid : String)
    (judge : Model α → Model α → ChangeReport α → ChangeReport α) : ChangeReport α :=
  let base := baseline.bestModel? uid
  let other := target.bestModel? uid
  let report := (ChangeReport.undetermined method.full subtype uid).withValues
    (familyName base) (familyName other)
  match base, other with
  | some base, some other => judge base other report
  | _, _ => report

/-- A steeper family is a degradation, a flatter one an optimization, for certain
when the confidence reaches the threshold. -/
def orderChange (baseline target : Family) (certain : Bool) : ChangeKind :=
  if target.complexity = baseline.complexity then .noChange
  else if baseline.complexity < target.complexity then
    if certain then .degradation else .maybeDegradation
  else if certain then .optimization else .maybeOptimization

def compareOrder (threshold : α) (baseline target : Profile α) (uid : String) : ChangeReport α :=
  reportOnModels .modelOrder "complexity order" baseline target uid fun base other report =>
    let confidence := confidenceOf base other
    { report with
      kind := orderChange base.family other.family (decide (threshold ≤ confidence)) }.withRSquare
        confidence

/-- A relative change up to the first threshold is none, and up to the second it
is uncertain. -/
def areaChange (noChange change difference : α) : ChangeKind :=
  let magnitude := Scalar.abs difference
  if magnitude ≤ noChange then .noChange
  else if magnitude ≤ change then
    if difference < 0.0 then .maybeOptimization else .maybeDegradation
  else if difference < 0.0 then .optimization
  else .degradation

/-- Compares the areas under the best models over the range that they share. -/
def compareAreas (noChange change : α) (baseline target : Profile α) (uid : String) :
    ChangeReport α :=
  reportOnModels .integral "integral" baseline target uid fun base other report =>
    match sharedRange? base other with
    | none => report
    | some (start, stop) =>
      let baseArea := base.integral start stop
      let otherArea := other.integral start stop
      if baseArea == 0.0 || !Scalar.isFinite baseArea || !Scalar.isFinite otherArea then report
      else
        let difference := (otherArea - baseArea) / Scalar.abs baseArea
        ({ report with kind := areaChange noChange change difference }.withRSquare
          (confidenceOf base other)).withRate difference

end ProfileDrift.Method
