import Mathlib.Data.List.GetD
import ProfileDrift.Model.Selection
import ProfileDrift.Proofs.ExactMean
import ProfileDrift.Proofs.FitOutcome

namespace ProfileDrift

open Exact (real scale)

/-- The observation with its amount in another unit. -/
noncomputable def Observation.rescaled (factor : ℝ) (point : Observation Exact) :
    Observation Exact :=
  { point with y := scale factor point.y }

namespace Model

/-- A curve that is a product carries the unit in its first factor, a curve that is a sum in
both of its summands. -/
noncomputable def rescaledCoefficients (factor : ℝ) (family : Family) (coefficients : List Exact) :
    List Exact :=
  if family.needsPositiveY then coefficients.modifyHead (scale factor)
  else coefficients.map (scale factor)

/-- The model with its amounts in another unit. -/
noncomputable def rescaled (factor : ℝ) (model : Model Exact) : Model Exact :=
  { model with coefficients := rescaledCoefficients factor model.family model.coefficients }

variable {factor : ℝ}

section Curve

variable (factor) in
theorem coefficient_zero_rescaled (model : Model Exact) :
    (model.rescaled factor).coefficient 0 = scale factor (model.coefficient 0) := by
  unfold coefficient rescaled rescaledCoefficients
  split <;> cases model.coefficients <;> simp [Exact.scale_zero]

variable (factor) in
theorem coefficient_one_rescaled (model : Model Exact) :
    (model.rescaled factor).coefficient 1 =
      if model.family.needsPositiveY then model.coefficient 1
      else scale factor (model.coefficient 1) := by
  unfold coefficient rescaled rescaledCoefficients
  split
  · cases model.coefficients <;> simp
  · conv_lhs => rw [← Exact.scale_zero, List.getD_map]

theorem evaluate_rescaled (model : Model Exact) (x : Exact) :
    (model.rescaled factor).evaluate x = scale factor (model.evaluate x) := by
  have level := model.coefficient_zero_rescaled factor
  have slope := model.coefficient_one_rescaled factor
  unfold evaluate
  rw [level, slope]
  obtain ⟨family, coefficients, rSquare, xStart, xEnd⟩ := model
  cases family <;>
    simp only [rescaled, Family.needsPositiveY, if_true, Bool.false_eq_true, if_false,
      Exact.scale_mul, Exact.scale_add]

theorem integral_rescaled (model : Model Exact) (start stop : Exact) :
    (model.rescaled factor).integral start stop = scale factor (model.integral start stop) := by
  have level := model.coefficient_zero_rescaled factor
  have slope := model.coefficient_one_rescaled factor
  unfold integral
  rw [level, slope]
  obtain ⟨family, coefficients, rSquare, xStart, xEnd⟩ := model
  cases family <;>
    simp only [rescaled, Family.needsPositiveY, if_true, Bool.false_eq_true, if_false,
      Exact.scale_mul, Exact.scale_div, Exact.scale_add, apply_ite (scale factor)]

end Curve

section Line

noncomputable def Deviations.rescaled (factor : ℝ) (sums : Deviations Exact) : Deviations Exact :=
  { sums with uv := scale factor sums.uv }

theorem deviations_scale (uMean vMean : Exact) (points : List (Exact × Exact)) :
    deviations uMean (scale factor vMean)
        (points.map fun point => (point.1, scale factor point.2)) =
      (deviations uMean vMean points).rescaled factor := by
  have start : (⟨0.0, 0.0, 0.0⟩ : Deviations Exact) =
      Deviations.rescaled factor ⟨0.0, 0.0, 0.0⟩ := by
    rw [Deviations.rescaled, Exact.scale_zero]
  rw [deviations_eq, deviations_eq, List.foldl_map]
  conv_lhs => rw [start]
  refine List.foldl_hom (Deviations.rescaled factor) fun sums point => ?_
  simp only [Deviations.with, Deviations.rescaled, Exact.scale_sub, Exact.mul_scale,
    Exact.scale_add]

theorem deviations_shift (shift : ℝ) (uMean vMean : Exact) (points : List (Exact × Exact)) :
    deviations uMean (vMean + real shift)
        (points.map fun point => (point.1, point.2 + real shift)) =
      deviations uMean vMean points := by
  rw [deviations_eq, deviations_eq, List.foldl_map]
  refine congrArg (fun step => points.foldl step _) ?_
  funext sums point
  simp only [Deviations.with, Exact.add_sub_add_right]

/-- The line through amounts in another unit rises in that unit. -/
theorem regress_scale (family : Family) (points : List (Exact × Exact)) :
    regress family (points.map fun point => (point.1, scale factor point.2)) =
      (regress family points).map fun (a, b) => (scale factor a, scale factor b) := by
  have sizes : (points.map fun point => (point.1, scale factor point.2)).map (·.1) =
      points.map (·.1) := List.map_map
  have amounts : (points.map fun point => (point.1, scale factor point.2)).map (·.2) =
      (points.map (·.2)).map (scale factor) := by
    rw [List.map_map, List.map_map]
    rfl
  unfold regress
  simp only [sizes, amounts, List.length_map, Exact.mean_map_scale, deviations_scale,
    Deviations.rescaled, Exact.isFinite_scale]
  split
  · rfl
  · split
    · rfl
    · simp only [Except.map, Exact.scale_div, Exact.scale_mul, Exact.scale_sub]

/-- The line through amounts that are all larger by the same lies higher by as much. -/
theorem regress_shift (shift : ℝ) (family : Family) {points : List (Exact × Exact)}
    (some : points ≠ []) :
    regress family (points.map fun point => (point.1, point.2 + real shift)) =
      (regress family points).map fun (a, b) => (a + real shift, b) := by
  have sizes : (points.map fun point => (point.1, point.2 + real shift)).map (·.1) =
      points.map (·.1) := List.map_map
  have amounts : (points.map fun point => (point.1, point.2 + real shift)).map (·.2) =
      (points.map (·.2)).map (· + real shift) := by
    rw [List.map_map, List.map_map]
    rfl
  have measured : points.map (·.2) ≠ [] := by simpa using some
  unfold regress
  simp only [sizes, amounts, List.length_map, Exact.mean_map_add shift measured, deviations_shift]
  split
  · rfl
  · split
    · rfl
    · simp only [Except.map, Exact.add_sub_right]

end Line

section Checks

theorem map_y_rescaled (observations : List (Observation Exact)) :
    (observations.map (Observation.rescaled factor)).map (·.y) =
      (observations.map (·.y)).map (scale factor) := by
  rw [List.map_map, List.map_map]
  rfl

theorem checkDomain_rescaled (positive : 0 < factor) (family : Family)
    (observations : List (Observation Exact)) :
    checkDomain family (observations.map (.rescaled factor)) = checkDomain family observations := by
  have sides (point : Observation Exact) : (point.rescaled factor).x = point.x := rfl
  have sign (point : Observation Exact) : (point.rescaled factor).y ≤ 0.0 ↔ point.y ≤ 0.0 :=
    Exact.scale_le_zero positive
  simp only [checkDomain, List.any_map, Function.comp_def, sides, sign]

theorem checkSpread_rescaled (positive : 0 < factor) (family : Family)
    (observations : List (Observation Exact)) :
    checkSpread family (observations.map (.rescaled factor)) = checkSpread family observations := by
  match observations with
  | [] => rfl
  | first :: rest =>
    have sizes (point : Observation Exact) : (point.rescaled factor).x = point.x := rfl
    have amounts (point : Observation Exact) :
        (point.rescaled factor).y = scale factor point.y := rfl
    simp only [checkSpread, List.map_cons, List.map_map, List.length_cons, List.length_map,
      List.all_cons, List.all_map, Function.comp_def, sizes, amounts,
      Exact.scale_beq_scale positive.ne']
    rfl

theorem sizeRange_rescaled (observations : List (Observation Exact)) :
    sizeRange (observations.map (.rescaled factor)) = sizeRange observations := by
  unfold sizeRange
  rw [List.foldl_map]
  rfl

end Checks

/-- Where amounts are taken as logarithms, a unit is a summand. -/
theorem linearised_shift (positive : 0 < factor) {family : Family}
    (logarithms : family.needsPositiveY = true) {point : Observation Exact}
    (above : ¬ point.y ≤ 0.0) :
    linearised family (point.rescaled factor) =
      ((linearised family point).1,
        (linearised family point).2 + real (Real.logb 10 factor)) := by
  cases family
  case power | exponential =>
    simp only [linearised, Observation.rescaled, Exact.log10_scale positive above]
  all_goals cases logarithms

theorem linearised_scale {family : Family} (plain : family.needsPositiveY = false)
    (point : Observation Exact) :
    linearised family (point.rescaled factor) =
      ((linearised family point).1, scale factor (linearised family point).2) := by
  cases family
  case power | exponential => cases plain
  all_goals rfl

theorem delinearised_shift (positive : 0 < factor) {family : Family}
    (logarithms : family.needsPositiveY = true) (a b : Exact) :
    delinearised family (a + real (Real.logb 10 factor)) b =
      rescaledCoefficients factor family (delinearised family a b) := by
  cases family
  case power | exponential =>
    simp only [delinearised, rescaledCoefficients, Family.needsPositiveY, if_true,
      List.modifyHead_cons, Exact.power_add_log10 positive]
  all_goals cases logarithms

theorem delinearised_scale {family : Family} (plain : family.needsPositiveY = false)
    (a b : Exact) :
    delinearised family (scale factor a) (scale factor b) =
      rescaledCoefficients factor family (delinearised family a b) := by
  cases family
  case power | exponential => cases plain
  all_goals rfl

theorem positive_of_checkDomain {family : Family} {observations : List (Observation Exact)}
    (within : checkDomain family observations = .ok ()) (logarithms : family.needsPositiveY = true)
    {point : Observation Exact} (member : point ∈ observations) : ¬ point.y ≤ 0.0 := by
  intro below
  unfold checkDomain at within
  have outside : (family.needsPositiveY &&
      observations.any fun point => decide (point.y ≤ 0.0)) = true := by
    rw [logarithms, Bool.true_and]
    exact List.any_eq_true.mpr ⟨point, member, decide_eq_true below⟩
  rw [if_pos outside] at within
  split at within <;> cases within

theorem bestCoefficients_rescaled (positive : 0 < factor) {family : Family}
    {observations : List (Observation Exact)} (some : observations ≠ [])
    (within : checkDomain family observations = .ok ()) :
    bestCoefficients family (observations.map (.rescaled factor)) =
      (bestCoefficients family observations).map (rescaledCoefficients factor family) := by
  by_cases constant : family = .constant
  · subst constant
    simp only [bestCoefficients, map_y_rescaled, Exact.mean_map_scale]
    rfl
  · rw [bestCoefficients_of_sloped constant, bestCoefficients_of_sloped constant, List.map_map]
    -- a product takes the unit in through the height of its line, a sum through the whole line
    cases logarithms : family.needsPositiveY with
    | true =>
      have moved : observations.map (linearised family ∘ Observation.rescaled factor) =
          (observations.map (linearised family)).map
            fun point => (point.1, point.2 + real (Real.logb 10 factor)) := by
        rw [List.map_map]
        exact List.map_congr_left fun point member =>
          linearised_shift positive logarithms (positive_of_checkDomain within logarithms member)
      have measured : observations.map (linearised family) ≠ [] := by simpa using some
      rw [moved, regress_shift _ family measured]
      cases regress family (observations.map (linearised family)) with
      | error failure => rfl
      | ok line => exact congrArg Except.ok (delinearised_shift positive logarithms line.1 line.2)
    | false =>
      have moved : observations.map (linearised family ∘ Observation.rescaled factor) =
          (observations.map (linearised family)).map
            fun point => (point.1, scale factor point.2) := by
        rw [List.map_map]
        exact List.map_congr_left fun point _ => linearised_scale logarithms point
      rw [moved, regress_scale]
      cases regress family (observations.map (linearised family)) with
      | error failure => rfl
      | ok line => exact congrArg Except.ok (delinearised_scale logarithms line.1 line.2)

/-- Squares of amounts take the unit in twice. -/
noncomputable def rescaledSquares (factor : ℝ) (squares : Exact × Exact) : Exact × Exact :=
  (scale factor (scale factor squares.1), scale factor (scale factor squares.2))

theorem squares_rescaled (model : Model Exact) (yMean : Exact)
    (observations : List (Observation Exact)) :
    (observations.map (Observation.rescaled factor)).foldl
        (withSquares (model.rescaled factor) (scale factor yMean)) (0.0, 0.0) =
      rescaledSquares factor (observations.foldl (withSquares model yMean) (0.0, 0.0)) := by
  have start : ((0.0, 0.0) : Exact × Exact) = rescaledSquares factor (0.0, 0.0) := by
    simp only [rescaledSquares, Exact.scale_zero]
  rw [List.foldl_map]
  conv_lhs => rw [start]
  refine List.foldl_hom (rescaledSquares factor) fun squares point => ?_
  simp only [withSquares, rescaledSquares, Observation.rescaled, evaluate_rescaled,
    Exact.scale_sub, Exact.scale_mul, Exact.mul_scale, Exact.scale_add]

/-- What a curve explains does not depend on the unit. -/
theorem explained_rescaled (nonzero : factor ≠ 0) (model : Model Exact)
    (observations : List (Observation Exact)) :
    explained (model.rescaled factor) (observations.map (.rescaled factor)) =
      explained model observations := by
  rw [explained_eq, explained_eq, map_y_rescaled, Exact.mean_map_scale, squares_rescaled]
  simp only [rescaledSquares, Exact.scale_beq_zero nonzero, Exact.scale_div_scale nonzero]

theorem isFinite_rescaledCoefficients (family : Family) (coefficients : List Exact) :
    ((rescaledCoefficients factor family coefficients).any fun value => !Scalar.isFinite value) =
      coefficients.any fun value => !Scalar.isFinite value := by
  unfold rescaledCoefficients
  split
  · cases coefficients with
    | nil => rfl
    | cons first rest =>
      simp only [List.modifyHead_cons, List.any_cons, Exact.isFinite_scale]
  · simp only [List.any_map, Function.comp_def, Exact.isFinite_scale]

theorem ofCoefficients_rescaled (nonzero : factor ≠ 0) (family : Family)
    (observations : List (Observation Exact)) (coefficients : List Exact) :
    ofCoefficients family (observations.map (.rescaled factor))
        (rescaledCoefficients factor family coefficients) =
      (ofCoefficients family observations coefficients).rescaled factor := by
  have same := explained_rescaled nonzero
    ⟨family, coefficients, 0.0, (sizeRange observations).1, (sizeRange observations).2⟩ observations
  unfold ofCoefficients
  rw [sizeRange_rescaled]
  simp only [rescaled] at same ⊢
  rw [same]

theorem checkFinite_rescaled (model : Model Exact) :
    checkFinite (model.rescaled factor) = (checkFinite model).map (.rescaled factor) := by
  unfold checkFinite
  simp only [rescaled, isFinite_rescaledCoefficients]
  rw [apply_ite (Except.map _), apply_ite (Except.map _)]
  rfl

/-- Fitting commutes with the choice of the unit, in success and in failure. -/
theorem fit_rescaled (positive : 0 < factor) (family : Family)
    (observations : List (Observation Exact)) :
    fit family (observations.map (.rescaled factor)) =
      (fit family observations).map (.rescaled factor) := by
  rw [fit_eq, fit_eq, List.isEmpty_map, checkDomain_rescaled positive,
    checkSpread_rescaled positive]
  cases missing : observations.isEmpty with
  | true => rfl
  | false =>
    have some : observations ≠ [] := by simpa using missing
    cases within : checkDomain family observations with
    | error failure => rfl
    | ok =>
      generalize (if family = .constant then .ok () else checkSpread family observations) = spread
      cases spread with
      | error failure => rfl
      | ok =>
        simp only [Bool.false_eq_true, if_false, bind, Except.bind,
          bestCoefficients_rescaled positive some within]
        cases bestCoefficients family observations with
        | error failure => rfl
        | ok coefficients =>
          simp only [Except.map, ofCoefficients_rescaled positive.ne', checkFinite_rescaled]

theorem fitAll_rescaled (positive : 0 < factor) (observations : List (Observation Exact)) :
    fitAll (observations.map (.rescaled factor)) = (fitAll observations).map (.rescaled factor) := by
  rw [fitAll_eq, fitAll_eq, List.map_filterMap]
  refine List.filterMap_congr fun family _ => ?_
  rw [fit_rescaled positive]
  cases fit family observations <;> rfl

/-- The best of some models is chosen by what they explain and by their families. -/
theorem selectBest?_map {α : Type} [Scalar α] (change : Model α → Model α)
    (explains : ∀ model, (change model).rSquare = model.rSquare)
    (family : ∀ model, (change model).family = model.family) (models : List (Model α)) :
    selectBest? (models.map change) = (selectBest? models).map change := by
  unfold selectBest?
  rw [List.foldl_map]
  have start : (none : Option (Model α)) = Option.map change none := rfl
  conv_lhs => rw [start]
  refine List.foldl_hom (Option.map change) fun best candidate => ?_
  unfold better
  rw [explains]
  split
  · cases best with
    | none => rfl
    | some current =>
      have same : beats (change candidate) (change current) = beats candidate current := by
        unfold beats
        rw [explains, explains, family, family]
      simp only [Option.map_some, same]
      cases beats candidate current <;> rfl
  · rfl

theorem selectBest?_rescaled (models : List (Model Exact)) :
    selectBest? (models.map (.rescaled factor)) = (selectBest? models).map (.rescaled factor) :=
  selectBest?_map (.rescaled factor) (fun _ => rfl) (fun _ => rfl) models

end Model

end ProfileDrift
