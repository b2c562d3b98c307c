import ProfileDrift.Method.Models

namespace ProfileDrift

/-- The curve of a target model less the curve of a baseline model, sampled over
the range that both share. -/
structure CurveDifference (α : Type) where
  baseline : Model α
  target : Model α
  /-- The difference at each sampled size where it is finite. -/
  points : List (Observation α)
  total : α
  /-- The mean difference relative to the baseline curve. -/
  relative : α

namespace CurveDifference

variable {α : Type} [Scalar α]

def sampleCount : Nat := 1000

/-- Coefficients this close to the ones of the baseline, relative to them, have
not changed. -/
def tolerance : α := 0.05

/-- The sizes that are sampled, evenly spread over a range with both ends in it. -/
def sampleSizes (start stop : α) : List α :=
  let step := (stop - start) / Scalar.ofCount (sampleCount - 1)
  (List.range sampleCount).map fun index => start + step * Scalar.ofCount index

/-- The finite differences with the baseline's height at each. -/
def samples (baseline target : Model α) (sizes : List α) : List (Observation α × α) :=
  sizes.filterMap fun x =>
    let height := baseline.evaluate x
    let difference := target.evaluate x - height
    if Scalar.isFinite difference then some (⟨x, difference⟩, height) else none

/-- The relative differences that are finite, as singles. -/
def ratios (samples : List (Observation α × α)) : List α :=
  samples.filterMap fun (point, height) =>
    let ratio := Scalar.toSingle (point.y / Scalar.abs height)
    if Scalar.isFinite ratio then some ratio else none

/-- The difference of two curves, unless they share no range or differ by
nothing finite anywhere on it. -/
def sample? [Tally α] (baseline target : Model α) : Option (CurveDifference α) :=
  match Method.sharedRange? baseline target with
  | none => none
  | some (start, stop) =>
    let samples := samples baseline target (sampleSizes start stop)
    if samples.isEmpty then none
    else
      let points := samples.map (·.1)
      let ratios := ratios samples
      some
        { baseline, target, points
          total := Tally.sum (points.map fun point => Scalar.toSingle point.y)
          relative := if ratios.isEmpty then 0.0 else Tally.mean ratios }

/-- Is the family the same and every coefficient within tolerance? -/
def isUnchanged (difference : CurveDifference α) : Bool :=
  difference.baseline.family = difference.target.family &&
    (difference.baseline.coefficients.zip difference.target.coefficients).all
      fun (before, after) =>
        decide (Scalar.abs (after - before) ≤ tolerance * Scalar.abs before)

/-- A difference above the baseline on the whole is a degradation, any other an
optimization, for certain when its mean relative size exceeds the threshold. -/
def change (difference : CurveDifference α) (threshold : α) : ChangeKind :=
  if difference.isUnchanged then .noChange
  else if (0.0 : α) < difference.total then
    if threshold < difference.relative then .degradation else .maybeDegradation
  else if difference.relative < -threshold then .optimization
  else .maybeOptimization

/-- The family that explains the difference best. -/
def bestShape (difference : CurveDifference α) : String :=
  Method.familyName (Model.selectBest? (Model.fitAll difference.points))

def largest (difference : CurveDifference α) : α :=
  difference.points.foldl (fun most point => Scalar.larger most (Scalar.abs point.y)) 0.0

/-- The length of the range between the first and the last sample. -/
def width (difference : CurveDifference α) : α :=
  match difference.points with
  | [] => 0.0
  | first :: rest => ((first :: rest).getLast (List.cons_ne_nil _ _)).x - first.x

/-- Does the difference stay level? It does when all samples are equal and when
its line rises or falls over the range by little against the largest difference. -/
def isLevel (difference : CurveDifference α) (line : Except FitFailure (Model α)) : Bool :=
  match line with
  | .error (.flatData _) => true
  | .error _ => false
  | .ok line =>
    decide (Scalar.abs (line.coefficient 1 * difference.width) ≤ tolerance * difference.largest)

/-- What an attempted fit explains; less than anything if it failed. -/
def explainedBy (fitted : Except FitFailure (Model α)) : α :=
  match fitted with
  | .ok model => model.rSquare
  | .error _ => -Scalar.infinity

/-- The trend of the difference: level, quadratic or linear, and the family that
explains it best when none of these is clear. -/
def trend (difference : CurveDifference α) : String :=
  let line := Model.fit .linear difference.points
  if difference.isLevel line then Family.constant.name
  else
    let byLine := explainedBy line
    let byParabola := explainedBy (Model.fit .quadratic difference.points)
    if (0.90 : α) < byParabola ∧ byLine < byParabola then Family.quadratic.name
    else if (0.95 : α) < byLine then Family.linear.name
    else difference.bestShape

end CurveDifference

namespace Method

variable {α : Type} [Scalar α]

/-- Compares the curves of the best models; the report names the shape of their
difference unless there is none. -/
def compareCurves [Tally α] (method : MethodName) (threshold : α)
    (shape : CurveDifference α → String) (baseline target : Profile α) (uid : String) :
    ChangeReport α :=
  reportOnModels method "curve difference" baseline target uid fun base other report =>
    match CurveDifference.sample? base other with
    | none => report
    | some difference =>
      let kind := difference.change threshold
      ({ report with
        kind
        subtype :=
          if kind = ChangeKind.noChange then report.subtype else shape difference ++ " difference"
        }.withRSquare (confidenceOf base other)).withRate difference.relative

end Method

end ProfileDrift
