import ProfileDrift.Proofs.FittedDocument
import ProfileDrift.Proofs.RescaledFit

namespace ProfileDrift

open Exact (real scale)

namespace CurveDifference

variable {factor : ℝ}

/-- The difference of two curves with amounts in another unit. What is relative stays. -/
noncomputable def rescaled (factor : ℝ) (difference : CurveDifference Exact) :
    CurveDifference Exact :=
  { difference with
    baseline := difference.baseline.rescaled factor
    target := difference.target.rescaled factor
    points := difference.points.map (.rescaled factor)
    total := scale factor difference.total }

theorem samples_rescaled (baseline target : Model Exact) (sizes : List Exact) :
    samples (baseline.rescaled factor) (target.rescaled factor) sizes =
      (samples baseline target sizes).map
        fun (point, height) => (point.rescaled factor, scale factor height) := by
  unfold samples
  rw [List.map_filterMap]
  refine List.filterMap_congr fun x _ => ?_
  simp only [Model.evaluate_rescaled, Exact.scale_sub, Exact.isFinite_scale]
  split <;> rfl

theorem ratios_rescaled (positive : 0 < factor) (samples : List (Observation Exact × Exact)) :
    ratios (samples.map fun (point, height) => (point.rescaled factor, scale factor height)) =
      ratios samples := by
  unfold ratios
  rw [List.filterMap_map]
  refine List.filterMap_congr fun (point, height) _ => ?_
  simp only [Function.comp_apply, Observation.rescaled, Exact.abs_scale positive,
    Exact.scale_div_scale positive.ne']

theorem sample?_rescaled (positive : 0 < factor) (baseline target : Model Exact) :
    sample? (baseline.rescaled factor) (target.rescaled factor) =
      (sample? baseline target).map (.rescaled factor) := by
  have total (points : List (Observation Exact)) :
      Tally.sum ((points.map (Observation.rescaled factor)).map
          fun point => Scalar.toSingle point.y) =
        scale factor (Tally.sum (points.map fun point => Scalar.toSingle point.y)) := by
    exact (congrArg Scalar.sum (Model.map_y_rescaled points)).trans (Exact.sum_map_scale _)
  have range : Method.sharedRange? (baseline.rescaled factor) (target.rescaled factor) =
      Method.sharedRange? baseline target := rfl
  have points (samples : List (Observation Exact × Exact)) :
      (samples.map fun (point, height) => (point.rescaled factor, scale factor height)).map (·.1) =
        (samples.map (·.1)).map (Observation.rescaled factor) := by
    rw [List.map_map, List.map_map]
    rfl
  unfold sample?
  rw [range]
  cases Method.sharedRange? baseline target with
  | none => rfl
  | some range =>
    simp only [samples_rescaled, List.isEmpty_map, points, ratios_rescaled positive, total]
    -- the thousand sampled sizes are of no concern from here on
    generalize samples baseline target (sampleSizes range.1 range.2) = samples
    cases samples.isEmpty <;> rfl

theorem all_near_rescaled (positive : 0 < factor) (family : Family) (before after : List Exact) :
    (((Model.rescaledCoefficients factor family before).zip
        (Model.rescaledCoefficients factor family after)).all fun (before, after) =>
          decide (Scalar.abs (after - before) ≤ tolerance * Scalar.abs before)) =
      (before.zip after).all fun (before, after) =>
        decide (Scalar.abs (after - before) ≤ tolerance * Scalar.abs before) := by
  have near (before after : Exact) :
      Scalar.abs (scale factor after - scale factor before) ≤
          tolerance * Scalar.abs (scale factor before) ↔
        Scalar.abs (after - before) ≤ tolerance * Scalar.abs before := by
    rw [Exact.scale_sub, Exact.abs_scale positive, Exact.abs_scale positive, Exact.mul_scale,
      Exact.scale_le_scale positive]
  unfold Model.rescaledCoefficients
  split
  · cases before <;> cases after <;>
      simp only [List.modifyHead_cons, List.modifyHead_nil, List.zip_cons_cons, List.zip_nil_left,
        List.zip_nil_right, List.all_cons, near]
  · simp only [List.zip_map, List.all_map, Function.comp_def, Prod.map, near]

/-- Coefficients are compared with those of the baseline, so that a factor of both is none. -/
theorem isUnchanged_rescaled (positive : 0 < factor) (difference : CurveDifference Exact) :
    (difference.rescaled factor).isUnchanged = difference.isUnchanged := by
  obtain ⟨baseline, target, points, total, relative⟩ := difference
  by_cases same : baseline.family = target.family
  · have near := all_near_rescaled positive target.family baseline.coefficients target.coefficients
    simp only [isUnchanged, rescaled, Model.rescaled, same, near]
  · simp only [isUnchanged, rescaled, Model.rescaled, same, decide_false, Bool.false_and]

theorem change_rescaled (positive : 0 < factor) (difference : CurveDifference Exact)
    (threshold : Exact) :
    (difference.rescaled factor).change threshold = difference.change threshold := by
  unfold change
  rw [isUnchanged_rescaled positive]
  simp only [rescaled, Exact.zero_lt_scale positive]
  rfl

theorem bestShape_rescaled (positive : 0 < factor) (difference : CurveDifference Exact) :
    (difference.rescaled factor).bestShape = difference.bestShape := by
  have best : Model.selectBest? (Model.fitAll (difference.rescaled factor).points) =
      (Model.selectBest? (Model.fitAll difference.points)).map (.rescaled factor) := by
    rw [← Model.selectBest?_rescaled, ← Model.fitAll_rescaled positive]
    rfl
  unfold bestShape
  rw [best]
  cases Model.selectBest? (Model.fitAll difference.points) <;> rfl

theorem largest_rescaled (positive : 0 < factor) (difference : CurveDifference Exact) :
    (difference.rescaled factor).largest = scale factor difference.largest := by
  change (difference.points.map (Observation.rescaled factor)).foldl _ 0.0 = _
  rw [List.foldl_map]
  have start : (0.0 : Exact) = scale factor 0.0 := Exact.scale_zero.symm
  conv_lhs => rw [start]
  refine List.foldl_hom (scale factor) fun most point => ?_
  rw [Observation.rescaled, Exact.abs_scale positive, Exact.larger_scale positive]

theorem width_rescaled (difference : CurveDifference Exact) :
    (difference.rescaled factor).width = difference.width := by
  obtain ⟨baseline, target, points, total, relative⟩ := difference
  cases points with
  | nil => rfl
  | cons first rest =>
    have last : ((first :: rest).map (Observation.rescaled factor)).getLast (by simp) =
        ((first :: rest).getLast (List.cons_ne_nil _ _)).rescaled factor := List.getLast_map _
    have same := congrArg (fun point : Observation Exact => point.x - first.x) last
    exact same

theorem isLevel_rescaled (positive : 0 < factor) (difference : CurveDifference Exact)
    (line : Except FitFailure (Model Exact))
    (straight : ∀ model, line = .ok model → model.family = .linear) :
    (difference.rescaled factor).isLevel (line.map (.rescaled factor)) =
      difference.isLevel line := by
  cases line with
  | error failure => cases failure <;> rfl
  | ok model =>
    have slope : (model.rescaled factor).coefficient 1 = scale factor (model.coefficient 1) := by
      rw [Model.coefficient_one_rescaled, straight model rfl]
      rfl
    simp only [isLevel, Except.map, slope, width_rescaled, largest_rescaled positive,
      Exact.scale_mul, Exact.mul_scale, Exact.abs_scale positive, Exact.scale_le_scale positive]

theorem explainedBy_rescaled (fitted : Except FitFailure (Model Exact)) :
    explainedBy (fitted.map (.rescaled factor)) = explainedBy fitted := by
  cases fitted <;> rfl

theorem trend_rescaled (positive : 0 < factor) (difference : CurveDifference Exact) :
    (difference.rescaled factor).trend = difference.trend := by
  have fitted (family : Family) : Model.fit family (difference.rescaled factor).points =
      (Model.fit family difference.points).map (.rescaled factor) :=
    Model.fit_rescaled positive family difference.points
  have level := isLevel_rescaled positive difference (Model.fit .linear difference.points)
    fun model fit => Model.family_of_fit fit
  unfold trend
  simp only [fitted, level, explainedBy_rescaled, bestShape_rescaled positive]

end CurveDifference

namespace Profile

variable {factor : ℝ}

/-- The profile with all of its amounts in another unit. -/
noncomputable def rescaled (factor : ℝ) (profile : Profile Exact) : Profile Exact :=
  { profile with resources := profile.resources.map (·.map (.rescaled factor)) }

theorem observations_rescaled (profile : Profile Exact) (uid : String) :
    (profile.rescaled factor).observations uid =
      (profile.observations uid).map (.rescaled factor) := by
  change ((profile.resources.map _).get? uid).getD [] =
    ((profile.resources.get? uid).getD []).map _
  rw [Keyed.get?_map]
  cases profile.resources.get? uid <;> rfl

theorem bestModel?_rescaled (positive : 0 < factor) {profile : Profile Exact} {uid : String}
    (unfitted : profile.storedModels? uid = none) :
    (profile.rescaled factor).bestModel? uid = (profile.bestModel? uid).map (.rescaled factor) := by
  have unfitted' : (profile.rescaled factor).storedModels? uid = none := unfitted
  rw [bestModel?, bestModel?, modelsOf_of_unfitted unfitted, modelsOf_of_unfitted unfitted',
    observations_rescaled, Model.fitAll_rescaled positive, Model.selectBest?_rescaled]

end Profile

namespace Method

variable {factor : ℝ} {baseline target : Profile Exact} {uid : String}

theorem averageAmount?_rescaled (profile : Profile Exact) (uid : String) :
    averageAmount? (profile.rescaled factor) uid =
      (averageAmount? profile uid).map (scale factor) := by
  rw [averageAmount?_eq, averageAmount?_eq, Profile.observations_rescaled, List.isEmpty_map,
    Model.map_y_rescaled, Exact.mean_map_scale]
  cases (profile.observations uid).isEmpty <;> rfl

/-- A judgement that does not look at the unit comes out the same in every unit. -/
theorem reportOnModels_rescaled (positive : 0 < factor)
    (unfitted : baseline.storedModels? uid = none) (unfitted' : target.storedModels? uid = none)
    (name : MethodName) (subtype : String)
    {judge : Model Exact → Model Exact → ChangeReport Exact → ChangeReport Exact}
    (blind : ∀ base other report,
      judge (base.rescaled factor) (other.rescaled factor) report = judge base other report) :
    reportOnModels name subtype (baseline.rescaled factor) (target.rescaled factor) uid judge =
      reportOnModels name subtype baseline target uid judge := by
  unfold reportOnModels
  rw [Profile.bestModel?_rescaled positive unfitted, Profile.bestModel?_rescaled positive unfitted']
  cases baseline.bestModel? uid with
  | none => cases target.bestModel? uid <;> rfl
  | some base =>
    cases target.bestModel? uid with
    | none => rfl
    | some other => exact blind base other _

theorem compareAreas_rescaled (positive : 0 < factor)
    (unfitted : baseline.storedModels? uid = none) (unfitted' : target.storedModels? uid = none)
    (noChange change : Exact) :
    compareAreas noChange change (baseline.rescaled factor) (target.rescaled factor) uid =
      compareAreas noChange change baseline target uid := by
  refine reportOnModels_rescaled positive unfitted unfitted' _ _ fun base other report => ?_
  have range : sharedRange? (base.rescaled factor) (other.rescaled factor) =
      sharedRange? base other := rfl
  have confident : confidenceOf (base.rescaled factor) (other.rescaled factor) =
      confidenceOf base other := rfl
  rw [range, confident]
  cases sharedRange? base other with
  | none => rfl
  | some range =>
    simp only [Model.integral_rescaled, Exact.scale_beq_zero positive.ne', Exact.isFinite_scale,
      Exact.scale_sub, Exact.abs_scale positive, Exact.scale_div_scale positive.ne']

theorem compareCurves_rescaled (positive : 0 < factor)
    (unfitted : baseline.storedModels? uid = none) (unfitted' : target.storedModels? uid = none)
    (name : MethodName) (threshold : Exact) {shape : CurveDifference Exact → String}
    (blind : ∀ difference, shape (difference.rescaled factor) = shape difference) :
    compareCurves name threshold shape (baseline.rescaled factor) (target.rescaled factor) uid =
      compareCurves name threshold shape baseline target uid := by
  refine reportOnModels_rescaled positive unfitted unfitted' _ _ fun base other report => ?_
  have confident : confidenceOf (base.rescaled factor) (other.rescaled factor) =
      confidenceOf base other := rfl
  rw [CurveDifference.sample?_rescaled positive, confident]
  cases CurveDifference.sample? base other with
  | none => rfl
  | some difference =>
    simp only [Option.map_some, CurveDifference.change_rescaled positive, blind]
    rfl

theorem compareAverages_rescaled [Hundredths Exact] (positive : 0 < factor)
    (degradation optimization : Exact) :
    let report := compareAverages degradation optimization baseline target uid
    let rescaled := compareAverages degradation optimization (baseline.rescaled factor)
      (target.rescaled factor) uid
    rescaled.kind = report.kind ∧ rescaled.subtype = report.subtype ∧
      rescaled.confidence = report.confidence ∧ rescaled.rate = report.rate := by
  unfold compareAverages
  simp only [averageAmount?_rescaled]
  cases averageAmount? baseline uid with
  | none => exact ⟨rfl, rfl, rfl, rfl⟩
  | some base =>
    cases averageAmount? target uid with
    | none => exact ⟨rfl, rfl, rfl, rfl⟩
    | some other =>
      simp only [Option.map_some, Exact.scale_beq_zero positive.ne', Exact.isFinite_scale,
        Exact.scale_div_scale positive.ne']
      split <;> exact ⟨rfl, rfl, rfl, rfl⟩

/-- What a method finds out does not depend on the unit of the amounts. Multiplying every
amount of both profiles by a positive number leaves the kind of the change, what was measured,
the confidence and the rate as they were, however numbers are shown. -/
theorem compare_rescaled [Hundredths Exact] (method : Method Exact) (positive : 0 < factor)
    (unfitted : baseline.storedModels? uid = none) (unfitted' : target.storedModels? uid = none) :
    let report := method.compare baseline target uid
    let rescaled := method.compare (baseline.rescaled factor) (target.rescaled factor) uid
    rescaled.kind = report.kind ∧ rescaled.subtype = report.subtype ∧
      rescaled.confidence = report.confidence ∧ rescaled.rate = report.rate := by
  cases method with
  | averageAmount degradation optimization => exact compareAverages_rescaled positive _ _
  | modelOrder confidence =>
    have same : compareOrder confidence (baseline.rescaled factor) (target.rescaled factor) uid =
        compareOrder confidence baseline target uid :=
      reportOnModels_rescaled positive unfitted unfitted' _ _ fun _ _ _ => rfl
    simp only [compare, same, and_self]
  | fastCheck change =>
    simp only [compare, compareCurves_rescaled positive unfitted unfitted' _ _
      (CurveDifference.bestShape_rescaled positive), and_self]
  | integral noChange change =>
    simp only [compare, compareAreas_rescaled positive unfitted unfitted', and_self]
  | linearRegression change =>
    simp only [compare, compareCurves_rescaled positive unfitted unfitted' _ _
      (CurveDifference.trend_rescaled positive), and_self]

/-- Two amounts, the second twice as large as the first. -/
noncomputable def doubling (amount : ℝ) : Profile Exact :=
  (Profile.blank ⟨"time", "./bin", "", "", []⟩ "time").withResource "main"
    [⟨real 0, real amount⟩, ⟨real 1, real (amount + amount)⟩]

theorem averageAmount?_doubling (amount : ℝ) :
    averageAmount? (doubling amount) "main" = some (real (amount * 1.5)) := by
  have recorded : (doubling amount).observations "main" =
      [⟨real 0, real amount⟩, ⟨real 1, real (amount + amount)⟩] := rfl
  rw [averageAmount?_eq, recorded]
  change some ((0.0 + real amount + real (amount + amount)) / real (2 : ℕ)) = _
  rw [Exact.zero_eq, Exact.real_add, Exact.real_add, Exact.real_div _ (by norm_num)]
  exact congrArg (some ∘ real) (by push_cast; ring)

/-- Thrice the amounts are a degradation, in thousandths as well. -/
theorem compare_rescaled_doubling :
    (0 : ℝ) < 1000 ∧ (doubling 1).storedModels? "main" = none ∧
      (doubling 3).storedModels? "main" = none ∧
      ((averageAmount 2.0 0.5).compare ((doubling 1).rescaled 1000) ((doubling 3).rescaled 1000)
        "main").kind = .degradation := by
  have positive : (0 : ℝ) < 1000 := by norm_num
  have unfitted (amount : ℝ) : (doubling amount).storedModels? "main" = none := rfl
  have same := compare_rescaled (averageAmount 2.0 0.5) positive (unfitted 1) (unfitted 3)
  refine ⟨positive, unfitted 1, unfitted 3, same.1.trans ?_⟩
  have known : ¬ ((real (1 * 1.5) == 0.0 || !Scalar.isFinite (real (1 * 1.5)) ||
      !Scalar.isFinite (real (3 * 1.5))) = true) := by
    norm_num [Exact.zero_eq, Exact.beq_iff, Scalar.isFinite, Exact.isReal]
  have ratio : (2.0 : Exact) ≤ real (3 * 1.5) / real (1 * 1.5) := by
    rw [Exact.real_div _ (by norm_num)]
    change (2.0 : ℝ) ≤ 3 * 1.5 / (1 * 1.5)
    norm_num
  simp only [compare, compareAverages, averageAmount?_doubling, if_neg known]
  exact if_pos ratio

end Method

end ProfileDrift
